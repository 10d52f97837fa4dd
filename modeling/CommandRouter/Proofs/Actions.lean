import CommandRouter.Action.Laws

/-!
# Actions that leave the state alone

Most of what the router does to the world outside does not depend on a state: to send a text, to
write to the log, to run a handler. Such an action does the same in every state and leaves it as it
was. So two runs from different states differ only by what their other steps did.

An action may also begin with one that depends on the state and go on without the state. Then all
that there is to know about it is known from its beginning: the beginning leaves the state, and its
result decides what else is done.

## Main definitions

* `Action.Stateless` says that an action neither reads nor changes the state.
* `Action.Continues` says that an action begins with a given one and goes on without the state.

## Main results

* `Action.Stateless.bind` and `Action.Stateless.recover` put stateless actions together.
* `Action.Continues.bind` and `Action.Continues.recover` let an action go on.
-/

namespace CommandRouter

namespace Action

variable {σ α β : Type}

/-! ### First steps of a sequence -/

@[simp] theorem run_ofExcept_ok_bind (a : α) (next : α → Action σ β) (s : σ) :
    ((ofExcept (.ok a) : Action σ α) >>= next) s = next a s := rfl

@[simp] theorem run_ofExcept_error_bind (fault : Fault) (next : α → Action σ β) (s : σ) :
    ((ofExcept (.error fault) : Action σ α) >>= next) s = ⟨[], s, .error fault⟩ := rfl

@[simp] theorem run_raise_bind (fault : Fault) (next : α → Action σ β) (s : σ) :
    ((raise fault : Action σ α) >>= next) s = ⟨[], s, .error fault⟩ := rfl

@[simp] theorem run_emit_bind (event : Event) (next : Unit → Action σ β) (s : σ) :
    ((emit event : Action σ Unit) >>= next) s =
      ⟨event :: (next () s).events, (next () s).state, (next () s).result⟩ := rfl

@[simp] theorem run_log_bind (notice : Notice) (next : Unit → Action σ β) (s : σ) :
    ((log notice : Action σ Unit) >>= next) s =
      ⟨.logged notice :: (next () s).events, (next () s).state, (next () s).result⟩ := rfl

@[simp] theorem run_map (f : α → β) (action : Action σ α) (s : σ) :
    (f <$> action) s = ⟨(action s).events, (action s).state, (action s).result.map f⟩ := by
  show bind action (fun a => pure (f a)) s = _
  cases h : action s with
  | mk events state result => cases result <;> simp [bind, pure, h, Except.map]

/-- The outcome of a sequence whose first step is known. -/
theorem run_bind_of_eq_ok {action : Action σ α} {next : α → Action σ β} {s s' : σ} {a : α}
    {events : List Event} (h : action s = ⟨events, s', .ok a⟩) :
    (action >>= next) s =
      ⟨events ++ (next a s').events, (next a s').state, (next a s').result⟩ := by
  have ended : (action s).result = .ok a := by rw [h]
  rw [run_bind_of_ok ended, h]

/-- The outcome of a sequence whose first step is known to fail. -/
theorem run_bind_of_eq_error {action : Action σ α} {next : α → Action σ β} {s s' : σ}
    {fault : Fault} {events : List Event} (h : action s = ⟨events, s', .error fault⟩) :
    (action >>= next) s = ⟨events, s', .error fault⟩ := by
  have failed : (action s).result = .error fault := by rw [h]
  rw [run_bind_of_error failed, h]

/-- The outcome of a recovery from an action that is known not to fail. -/
theorem run_recover_of_eq_ok {action : Action σ α} {handle : Fault → Action σ α} {s s' : σ} {a : α}
    {events : List Event} (h : action s = ⟨events, s', .ok a⟩) :
    action.recover handle s = ⟨events, s', .ok a⟩ := by
  rw [run_recover_of_ok (by rw [h]), h]

/-- The outcome of a recovery from an action that is known to fail. -/
theorem run_recover_of_eq_error {action : Action σ α} {handle : Fault → Action σ α} {s s' : σ}
    {fault : Fault} {events : List Event} (h : action s = ⟨events, s', .error fault⟩)
    (caught : fault.isInterrupt = false) :
    action.recover handle s =
      ⟨events ++ (handle fault s').events, (handle fault s').state, (handle fault s').result⟩ := by
  rw [run_recover_of_error (by rw [h]) caught, h]

/-- The outcome of a recovery from an action that is known to be interrupted. -/
theorem run_recover_of_eq_interrupt {action : Action σ α} {handle : Fault → Action σ α} {s s' : σ}
    {fault : Fault} {events : List Event} (h : action s = ⟨events, s', .error fault⟩)
    (passed : fault.isInterrupt = true) :
    action.recover handle s = ⟨events, s', .error fault⟩ := by
  rw [run_recover_of_interrupt (by rw [h]) passed, h]

/-! ### Stateless actions -/

/-- Whether an action does the same in every state, and leaves it as it was. -/
def Stateless (action : Action σ α) : Prop :=
  ∃ events result, ∀ s, action s = ⟨events, s, result⟩

namespace Stateless

theorem pure (a : α) : Stateless (Pure.pure a : Action σ α) := ⟨[], .ok a, fun _ => rfl⟩

theorem raise (fault : Fault) : Stateless (Action.raise fault : Action σ α) :=
  ⟨[], .error fault, fun _ => rfl⟩

theorem ofExcept (result : Except Fault α) : Stateless (Action.ofExcept result : Action σ α) :=
  ⟨[], result, fun _ => rfl⟩

theorem emit (event : Event) : Stateless (Action.emit event : Action σ Unit) :=
  ⟨[event], .ok (), fun _ => rfl⟩

theorem log (notice : Notice) : Stateless (Action.log notice : Action σ Unit) :=
  emit (.logged notice)

theorem logFault (notice : String → Notice) (fault : Fault) :
    Stateless (Action.logFault notice fault : Action σ Unit) := by
  cases said : fault.message with
  | ok message => exact ⟨_, _, fun _ => run_logFault_of_ok notice said _⟩
  | error reason => exact ⟨_, _, fun _ => run_logFault_of_error notice said _⟩

theorem bind {action : Action σ α} {next : α → Action σ β} (first : action.Stateless)
    (second : ∀ a, (next a).Stateless) : (action >>= next).Stateless := by
  obtain ⟨events, result, h⟩ := first
  cases result with
  | error fault => exact ⟨events, .error fault, fun s => run_bind_of_eq_error (h s)⟩
  | ok a =>
    obtain ⟨events', result', h'⟩ := second a
    refine ⟨events ++ events', result', fun s => ?_⟩
    rw [run_bind_of_eq_ok (h s), h' s]

theorem attempt {action : Action σ α} (h : action.Stateless) : action.attempt.Stateless := by
  obtain ⟨events, result, h⟩ := h
  refine ⟨events, .ok result, fun s => ?_⟩
  rw [run_attempt, h s]

theorem recover {action : Action σ α} {handle : Fault → Action σ α} (h : action.Stateless)
    (handled : ∀ fault, (handle fault).Stateless) : (action.recover handle).Stateless := by
  refine bind h.attempt fun result => ?_
  cases result with
  | ok a => exact pure a
  | error fault =>
    show Stateless (if fault.isInterrupt then Action.raise fault else handle fault)
    split
    · exact raise fault
    · exact handled fault

end Stateless

/-! ### Actions that go on without the state -/

/-- Whether an action begins with a given one, leaves the state as that one does, and does nothing
else but what the result of that one decides. -/
def Continues (action : Action σ β) (first : Action σ α) : Prop :=
  ∀ ended, ∃ events result, ∀ s, (first s).result = ended →
    action s = ⟨(first s).events ++ events, (first s).state, result⟩

namespace Continues

variable {γ : Type} {first : Action σ γ}

theorem refl (first : Action σ γ) : first.Continues first := by
  intro ended
  refine ⟨[], ended, fun s h => ?_⟩
  rw [List.append_nil, ← h]

theorem bind {action : Action σ α} {next : α → Action σ β} (h : action.Continues first)
    (later : ∀ a, (next a).Stateless) : (action >>= next).Continues first := by
  intro ended
  obtain ⟨events, result, h⟩ := h ended
  cases result with
  | error fault => exact ⟨events, .error fault, fun s hs => run_bind_of_eq_error (h s hs)⟩
  | ok a =>
    obtain ⟨events', result', h'⟩ := later a
    refine ⟨events ++ events', result', fun s hs => ?_⟩
    rw [run_bind_of_eq_ok (h s hs), h', List.append_assoc]

theorem of_map (f : γ → α) (first : Action σ γ) : (f <$> first).Continues first := by
  rw [map_eq_pure_bind]
  exact (refl first).bind fun a => Stateless.pure (f a)

theorem recover {action : Action σ α} {handle : Fault → Action σ α} (h : action.Continues first)
    (handled : ∀ fault, (handle fault).Stateless) : (action.recover handle).Continues first := by
  intro ended
  obtain ⟨events, result, h⟩ := h ended
  cases result with
  | ok a => exact ⟨events, .ok a, fun s hs => run_recover_of_eq_ok (h s hs)⟩
  | error fault =>
    by_cases interrupt : fault.isInterrupt = true
    · exact ⟨events, .error fault, fun s hs => run_recover_of_eq_interrupt (h s hs) interrupt⟩
    · obtain ⟨events', result', h'⟩ := handled fault
      refine ⟨events ++ events', result', fun s hs => ?_⟩
      rw [run_recover_of_eq_error (h s hs) (Bool.eq_false_iff.2 interrupt), h', List.append_assoc]

end Continues

end Action

end CommandRouter
