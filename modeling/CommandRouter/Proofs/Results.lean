import CommandRouter.Fault

/-!
# Results, and faults that are caught

A computation that may fail is followed backwards: if the whole of it ended with a result, so did
every step before it.

A recovery catches every fault but an interruption by the user, and it can tell of every fault that
has a message. So where a recovery is relied upon, what has to be known of a computation is that
whatever fault it ends with is an ordinary one. All faults that are named by a cause are; only one
that comes from outside may be an interruption, or may have no message.

## Main definitions

* `Yields` says that a computation ends with a result, and what is known of it.
* `Ordinary` says that a computation ends with a result or an ordinary fault.

## Main results

* `bind_eq_ok_iff` and `map_eq_ok_iff` take one step back.
* `Yields.bind` goes from the first step of a computation to the whole of it, and `Yields.mapM` from
  the items of a list to the list.
* `Ordinary.bind`, `Ordinary.map` and `Ordinary.mapM` put ordinary computations together.
-/

namespace CommandRouter

variable {α β : Type}

@[simp] theorem ok_bind {ε : Type} (a : α) (f : α → Except ε β) : (Except.ok a >>= f) = f a := rfl

@[simp] theorem error_bind {ε : Type} (error : ε) (f : α → Except ε β) :
    (Except.error error >>= f) = .error error := rfl

theorem bind_eq_ok_iff {ε : Type} {x : Except ε α} {f : α → Except ε β} {b : β} :
    (x >>= f) = .ok b ↔ ∃ a, x = .ok a ∧ f a = .ok b := by
  cases x <;> simp [bind, Except.bind]

theorem map_eq_ok_iff {ε : Type} {x : Except ε α} {f : α → β} {b : β} :
    x.map f = .ok b ↔ ∃ a, x = .ok a ∧ f a = b := by
  cases x <;> simp [Except.map]

/-! ### Computations that do not fail -/

/-- Whether a computation ends with a result, which satisfies a condition. -/
def Yields (x : Except Fault α) (p : α → Prop) : Prop := ∃ a, x = .ok a ∧ p a

namespace Yields

theorem ok {p : α → Prop} {a : α} (h : p a) : Yields (.ok a) p := ⟨a, rfl, h⟩

theorem mono {x : Except Fault α} {p q : α → Prop} (hx : Yields x p) (h : ∀ a, p a → q a) :
    Yields x q := by
  obtain ⟨a, rfl, ha⟩ := hx
  exact ok (h a ha)

theorem bind {x : Except Fault α} {f : α → Except Fault β} {p : α → Prop} {q : β → Prop}
    (hx : Yields x p) (hf : ∀ a, p a → Yields (f a) q) : Yields (x >>= f) q := by
  obtain ⟨a, rfl, ha⟩ := hx
  exact hf a ha

theorem map {x : Except Fault α} {f : α → β} {p : β → Prop}
    (hx : Yields x fun a => p (f a)) : Yields (x.map f) p := by
  obtain ⟨a, rfl, ha⟩ := hx
  exact ok ha

theorem mapM {f : α → Except Fault β} {l : List α} {p : β → Prop}
    (h : ∀ a ∈ l, Yields (f a) p) : Yields (l.mapM f) fun bs => ∀ b ∈ bs, p b := by
  induction l with
  | nil => exact ok (by simp)
  | cons a later ih =>
    rw [List.mapM_cons]
    refine (h a (by simp)).bind fun b hb => ?_
    refine (ih fun c hc => h c (by simp [hc])).bind fun bs hbs => ?_
    exact ok (List.forall_mem_cons.2 ⟨hb, hbs⟩)

end Yields

/-! ### Ordinary faults -/

theorem Fault.isOrdinary_iff {fault : Fault} :
    fault.isOrdinary = true ↔
      fault.isInterrupt = false ∧ ∃ message, fault.message = .ok message := by
  rw [Fault.isOrdinary, Bool.and_eq_true, Bool.not_eq_true']
  cases fault.message <;> simp [Except.isOk, Except.toBool]

/-- An ordinary fault is told of and goes on. -/
theorem Fault.told_of_isOrdinary {fault : Fault} (h : fault.isOrdinary = true) :
    fault.told = fault := by
  obtain ⟨caught, message, said⟩ := Fault.isOrdinary_iff.1 h
  rw [Fault.told, caught, said]
  rfl

/-- What is left of a fault that has been told of can itself be told of. -/
theorem Fault.isOrdinary_told {fault : Fault} (caught : fault.told.isInterrupt = false) :
    fault.told.isOrdinary = true := by
  rw [Fault.isOrdinary_iff]
  refine ⟨caught, ?_⟩
  rw [Fault.told] at caught ⊢
  split at caught
  · rename_i interrupt
    rw [interrupt] at caught
    cases caught
  · rename_i passed
    rw [if_neg passed]
    cases fault with
    | raised kind text => cases kind <;> exact ⟨_, rfl⟩
    | unspoken kind asked reason => cases asked <;> exact ⟨_, rfl⟩
    | _ => exact ⟨_, rfl⟩

/-- Whether a computation ends with a result or an ordinary fault. -/
def Ordinary (result : Except Fault α) : Prop :=
  ∀ fault, result = .error fault → fault.isOrdinary = true

namespace Ordinary

@[simp] theorem of_ok (a : α) : Ordinary (.ok a : Except Fault α) := by
  intro fault h
  cases h

@[simp] theorem error_iff {fault : Fault} :
    Ordinary (.error fault : Except Fault α) ↔ fault.isOrdinary = true :=
  ⟨fun h => h fault rfl, fun h _ same => by cases same; exact h⟩

theorem bind {x : Except Fault α} {f : α → Except Fault β} (hx : Ordinary x)
    (hf : ∀ a, x = .ok a → Ordinary (f a)) : Ordinary (x >>= f) := by
  cases x with
  | ok a => exact hf a rfl
  | error fault => exact error_iff.2 (hx fault rfl)

theorem map {x : Except Fault α} {f : α → β} (hx : Ordinary x) : Ordinary (x.map f) := by
  cases x with
  | ok a => exact of_ok (f a)
  | error fault => exact error_iff.2 (hx fault rfl)

/-- An ordinary fault is told of and goes on. -/
theorem told {x : Except Fault α} (hx : Ordinary x) : x.mapError Fault.told = x := by
  cases x with
  | ok a => rfl
  | error fault => exact congrArg Except.error (Fault.told_of_isOrdinary (hx fault rfl))

theorem mapM {f : α → Except Fault β} {l : List α} (h : ∀ a ∈ l, Ordinary (f a)) :
    Ordinary (l.mapM f) := by
  induction l with
  | nil => exact of_ok []
  | cons a later ih =>
    rw [List.mapM_cons]
    refine (h a (by simp)).bind fun b _ => (ih fun c hc => h c (by simp [hc])).bind fun bs _ => ?_
    exact of_ok (b :: bs)

end Ordinary

end CommandRouter
