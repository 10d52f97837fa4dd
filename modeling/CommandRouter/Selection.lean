import CommandRouter.Fault

/-!
# Selecting by a condition that may fail

## Main definitions

* `selectWhere` keeps the items of a list that satisfy a condition. The first item for which the
  condition fails is the last one that is looked at.

## Main results

* `selectWhere_eq_ok` is the selection by a condition that never fails, and
  `selectWhere_eq_singleton` that of a single item.
-/

namespace CommandRouter

variable {α : Type}

/-- The items that satisfy a condition which may fail. -/
def selectWhere (p : α → Except Fault Bool) : List α → Except Fault (List α)
  | [] => .ok []
  | a :: later => do
    let kept ← p a
    let others ← selectWhere p later
    return if kept then a :: others else others

theorem selectWhere_eq_ok {p : α → Except Fault Bool} {q : α → Bool} {l : List α}
    (h : ∀ a ∈ l, p a = .ok (q a)) : selectWhere p l = .ok (l.filter q) := by
  induction l with
  | nil => rfl
  | cons a later ih =>
    rw [selectWhere, h a (by simp), ih fun b hb => h b (by simp [hb])]
    cases kept : q a <;> simp [bind, Except.bind, pure, Except.pure, kept]

/-- An item that alone satisfies a condition is selected. -/
theorem selectWhere_eq_singleton {p : α → Except Fault Bool} {before after : List α}
    {a : α} (here : p a = .ok true) (elsewhere : ∀ b ∈ before ++ after, p b = .ok false) :
    selectWhere p (before ++ a :: after) = .ok [a] := by
  obtain ⟨earlier, later⟩ := List.forall_mem_append.1 elsewhere
  induction before with
  | nil =>
    have none : selectWhere p after = .ok [] := by
      rw [selectWhere_eq_ok (q := fun _ => false) later, List.filter_eq_nil_iff.2 (by simp)]
    rw [List.nil_append, selectWhere, here, none]
    rfl
  | cons b before ih =>
    obtain ⟨first, others⟩ := List.forall_mem_cons.1 earlier
    rw [List.cons_append, selectWhere, first, ih (List.forall_mem_append.2 ⟨others, later⟩) others]
    rfl

end CommandRouter
