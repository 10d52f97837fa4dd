import CommandRouter.Action

/-!
# Laws of actions

An action is followed step by step: a step that ends with a result hands state and trace on, and
a step that ends with a fault is the last one. The lemmas here take one step each; together with
the monad laws they say everything about sequences of actions.

## Main results

* `Action.run_bind_of_ok` and `Action.run_bind_of_error` are the two cases of a sequence.
* `Action.run_recover_of_ok`, `Action.run_recover_of_error` and `Action.run_recover_of_interrupt`
  are the three cases of a recovery.
* `Action.run_recover_logFault_of_isOrdinary` and `Action.run_recover_logFault_of_not_isOrdinary`
  are the two cases of a recovery that tells of a fault and goes on.
* `Action.run_telling_of_eq_ok` and `Action.run_telling_of_eq_error` are the two cases of telling of
  a fault that goes on itself.
* Actions form a lawful monad.
-/

namespace CommandRouter

namespace Action

variable {σ τ α β : Type}

@[simp] theorem run_pure (a : α) (s : σ) : (Pure.pure a : Action σ α) s = ⟨[], s, .ok a⟩ := rfl

@[simp] theorem run_raise (fault : Fault) (s : σ) :
    (raise fault : Action σ α) s = ⟨[], s, .error fault⟩ := rfl

@[simp] theorem run_ofExcept (result : Except Fault α) (s : σ) :
    (ofExcept result : Action σ α) s = ⟨[], s, result⟩ := rfl

@[simp] theorem run_get (s : σ) : (get : Action σ σ) s = ⟨[], s, .ok s⟩ := rfl

@[simp] theorem run_set (s s' : σ) : (set s' : Action σ Unit) s = ⟨[], s', .ok ()⟩ := rfl

@[simp] theorem run_modify (f : σ → σ) (s : σ) :
    (modify f : Action σ Unit) s = ⟨[], f s, .ok ()⟩ := rfl

@[simp] theorem run_emit (event : Event) (s : σ) :
    (emit event : Action σ Unit) s = ⟨[event], s, .ok ()⟩ := rfl

@[simp] theorem run_log (notice : Notice) (s : σ) :
    (log notice : Action σ Unit) s = ⟨[.logged notice], s, .ok ()⟩ := rfl

@[simp] theorem run_attempt (action : Action σ α) (s : σ) :
    action.attempt s = ⟨(action s).events, (action s).state, .ok (action s).result⟩ := rfl

@[simp] theorem run_zoom (part : σ → τ) (replace : τ → σ → σ) (action : Action τ α) (s : σ) :
    zoom part replace action s =
      ⟨(action (part s)).events, replace (action (part s)).state s, (action (part s)).result⟩ :=
  rfl

/-! ### Sequences -/

/-- A sequence goes on after a step that ends with a result. -/
theorem run_bind_of_ok {action : Action σ α} {next : α → Action σ β} {s : σ} {a : α}
    (h : (action s).result = .ok a) :
    (action >>= next) s =
      ⟨(action s).events ++ (next a (action s).state).events,
        (next a (action s).state).state, (next a (action s).state).result⟩ := by
  show bind action next s = _
  simp only [bind, h]

/-- A sequence ends with a step that ends with a fault. -/
theorem run_bind_of_error {action : Action σ α} {next : α → Action σ β} {s : σ} {fault : Fault}
    (h : (action s).result = .error fault) :
    (action >>= next) s = ⟨(action s).events, (action s).state, .error fault⟩ := by
  show bind action next s = _
  simp only [bind, h]

@[simp] theorem run_get_bind (next : σ → Action σ β) (s : σ) :
    ((get : Action σ σ) >>= next) s = next s s := rfl

@[simp] theorem run_set_bind (s' : σ) (next : Unit → Action σ β) (s : σ) :
    ((set s' : Action σ Unit) >>= next) s = next () s' := rfl

@[simp] theorem run_modify_bind (f : σ → σ) (next : Unit → Action σ β) (s : σ) :
    ((modify f : Action σ Unit) >>= next) s = next () (f s) := rfl

theorem bind_pure_eq (action : Action σ α) : bind action pure = action := by
  funext s
  cases h : action s with
  | mk events state result => cases result <;> simp [bind, pure, h]

theorem bind_assoc_eq {γ : Type} (action : Action σ α) (next : α → Action σ β)
    (last : β → Action σ γ) :
    bind (bind action next) last = bind action fun a => bind (next a) last := by
  funext s
  cases h : action s with
  | mk events state result =>
    cases result with
    | error fault => simp [bind, h]
    | ok a =>
      cases h' : next a state with
      | mk events' state' result' => cases result' <;> simp [bind, h, h']

instance : LawfulMonad (Action σ) :=
  LawfulMonad.mk' _ (fun action => bind_pure_eq action) (fun _ _ => rfl)
    (fun action next last => bind_assoc_eq action next last)

/-! ### Recoveries -/

/-- A recovery does nothing after a result. -/
theorem run_recover_of_ok {action : Action σ α} {handle : Fault → Action σ α} {s : σ} {a : α}
    (h : (action s).result = .ok a) : recover action handle s = action s := by
  have attempted : (action.attempt s).result = .ok (.ok a) := by simp [h]
  rw [recover, run_bind_of_ok attempted]
  cases h' : action s
  simp_all [pure]

/-- A recovery handles a fault in the state that it leaves. -/
theorem run_recover_of_error {action : Action σ α} {handle : Fault → Action σ α} {s : σ}
    {fault : Fault} (h : (action s).result = .error fault) (caught : fault.isInterrupt = false) :
    recover action handle s =
      ⟨(action s).events ++ (handle fault (action s).state).events,
        (handle fault (action s).state).state, (handle fault (action s).state).result⟩ := by
  have attempted : (action.attempt s).result = .ok (.error fault) := by simp [h]
  rw [recover, run_bind_of_ok attempted]
  simp [caught]

/-- A recovery does not catch an interruption. -/
theorem run_recover_of_interrupt {action : Action σ α} {handle : Fault → Action σ α} {s : σ}
    {fault : Fault} (h : (action s).result = .error fault) (passed : fault.isInterrupt = true) :
    recover action handle s = action s := by
  have attempted : (action.attempt s).result = .ok (.error fault) := by simp [h]
  rw [recover, run_bind_of_ok attempted]
  cases h' : action s
  simp_all [raise]

/-! ### Telling of faults -/

/-- What is logged when a fault is told of. -/
def notices (notice : String → Notice) (fault : Fault) : List Event :=
  if fault.isInterrupt then []
  else
    match fault.message with
    | .ok message => [.logged (notice message)]
    | .error _ => []

/-- To tell of a fault runs no handler, sends no statement, and sends nothing to a channel. -/
theorem quiet_notices (notice : String → Notice) (fault : Fault) :
    ∀ event ∈ notices notice fault,
      event.call? = none ∧ event.statement? = none ∧ event.sent? = none := by
  rw [notices]
  split
  · simp
  · split <;> simp [Event.call?, Event.statement?, Event.sent?]

theorem notices_of_not_isOrdinary {notice : String → Notice} {fault : Fault}
    (unspoken : fault.isOrdinary = false) : notices notice fault = [] := by
  rw [notices]
  split
  · rfl
  · rename_i passed
    cases said : fault.message with
    | error reason => rfl
    | ok message => simp [Fault.isOrdinary, passed, said, Except.isOk, Except.toBool] at unspoken

theorem exists_notices_eq (notice : String → Notice) {fault : Fault}
    (ordinary : fault.isOrdinary = true) :
    ∃ message, fault.message = .ok message ∧ notices notice fault = [.logged (notice message)] := by
  rw [Fault.isOrdinary, Bool.and_eq_true, Bool.not_eq_true'] at ordinary
  rw [notices, ordinary.1]
  cases said : fault.message with
  | ok message => exact ⟨message, rfl, rfl⟩
  | error reason =>
    rw [said] at ordinary
    cases ordinary.2

theorem run_logFault_of_ok (notice : String → Notice) {fault : Fault} {message : String}
    (h : fault.message = .ok message) (s : σ) :
    (logFault notice fault : Action σ Unit) s = ⟨[.logged (notice message)], s, .ok ()⟩ := by
  rw [logFault, h]
  rfl

theorem run_logFault_of_error (notice : String → Notice) {fault reason : Fault}
    (h : fault.message = .error reason) (s : σ) :
    (logFault notice fault : Action σ Unit) s = ⟨[], s, .error reason⟩ := by
  rw [logFault, h]
  rfl

/-- A fault that can be told of is logged, and the recovery goes on. -/
theorem run_recover_logFault_of_isOrdinary (notice : String → Notice)
    (next : Fault → Action σ α) {action : Action σ α} {s s' : σ} {fault : Fault}
    {events : List Event} (h : action s = ⟨events, s', .error fault⟩)
    (ordinary : fault.isOrdinary = true) :
    recover action (fun fault => do logFault notice fault; next fault) s =
      ⟨events ++ notices notice fault ++ (next fault s').events, (next fault s').state,
        (next fault s').result⟩ := by
  have failed : (action s).result = .error fault := by rw [h]
  have spoken := ordinary
  rw [Fault.isOrdinary, Bool.and_eq_true, Bool.not_eq_true'] at spoken
  rw [run_recover_of_error failed spoken.1, h, notices, spoken.1]
  cases said : fault.message with
  | error reason =>
    rw [said] at spoken
    cases spoken.2
  | ok message =>
    have logged := run_logFault_of_ok notice said s'
    rw [run_bind_of_ok (by rw [logged]), logged]
    simp

/-- A fault that cannot be told of leaves a recovery, or the reason for that does. -/
theorem run_recover_logFault_of_not_isOrdinary (notice : String → Notice)
    (next : Fault → Action σ α) {action : Action σ α} {s s' : σ} {fault : Fault}
    {events : List Event} (h : action s = ⟨events, s', .error fault⟩)
    (unspoken : fault.isOrdinary = false) :
    recover action (fun fault => do logFault notice fault; next fault) s =
      ⟨events, s', .error fault.told⟩ := by
  have failed : (action s).result = .error fault := by rw [h]
  rw [Fault.told]
  cases interrupt : fault.isInterrupt with
  | true => simp [run_recover_of_interrupt failed interrupt, h]
  | false =>
    rw [run_recover_of_error failed interrupt, h]
    cases said : fault.message with
    | ok message => simp [Fault.isOrdinary, interrupt, said, Except.isOk, Except.toBool] at unspoken
    | error reason =>
      have refused := run_logFault_of_error notice said s'
      rw [run_bind_of_error (by rw [refused]), refused]
      simp

/-- Nothing is told of an action that ends with a result. -/
theorem run_telling_of_eq_ok {notice : String → Notice} {action : Action σ α} {s s' : σ} {a : α}
    {events : List Event} (h : action s = ⟨events, s', .ok a⟩) :
    telling notice action s = ⟨events, s', .ok a⟩ := by
  rw [telling, run_recover_of_ok (by rw [h]), h]

/-- A fault is told of, and what is left of it goes on. -/
theorem run_telling_of_eq_error {notice : String → Notice} {action : Action σ α} {s s' : σ}
    {fault : Fault} {events : List Event} (h : action s = ⟨events, s', .error fault⟩) :
    telling notice action s = ⟨events ++ notices notice fault, s', .error fault.told⟩ := by
  have failed : (action s).result = .error fault := by rw [h]
  rw [telling, notices, Fault.told]
  cases interrupt : fault.isInterrupt with
  | true => simp [run_recover_of_interrupt failed interrupt, h]
  | false =>
    rw [run_recover_of_error failed interrupt, h]
    cases spoken : fault.message with
    | ok message =>
      have logged := run_logFault_of_ok notice spoken s'
      rw [run_bind_of_ok (by rw [logged]), logged]
      rfl
    | error reason =>
      have failed := run_logFault_of_error notice spoken s'
      rw [run_bind_of_error (by rw [failed]), failed]
      rfl

end Action

end CommandRouter
