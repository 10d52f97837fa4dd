import CommandRouter.Bot.Database
import CommandRouter.Proofs.Actions
import CommandRouter.Store.Memory

/-!
# The database connection when a start fails

A start is made of two steps that may fail: a pool is opened, and the table of guild settings is
created through it. The pool counts as open as soon as the first step is done. So which step failed
can be seen afterwards. If no pool could be opened, the connection is what it was before. If the
table could not be created, the new pool is open, whatever was open before, although the start is
reported as a failure and gives no pool to anyone; it is what the next closing will close.

A start does not look at the connection it finds. So all this holds after any history of starts and
closings, and a pool that was open before is lost from sight in the second case.

## Main definitions

* `Database.Operation` is a start or a closing, and `Database.after` is the connection that a
  history of them leaves.
* `Backend.opened` is the pool that a start leaves behind if one could be opened.

## Main results

* `Database.start_cases` says what a start may come to.
* `Database.state_of_start_eq_error` tells the two failures apart, after every history.
-/

namespace CommandRouter

/-- The pool that is left when the table has been asked for. A fault that waited for the statement
has been used up. -/
def Backend.opened (backend : Backend) : Pool :=
  ⟨⟨backend.engine.toEngine, .ofList backend.rows, []⟩, backend.closeFault⟩

namespace Database

/-! ### One start -/

/-- The store answers that the table is there, or with the fault that waits for the statement. -/
theorem answer_createGuilds (backend : Backend) :
    backend.pool.store.answer .createGuilds =
      (match backend.executeFault with
        | some fault => .error fault
        | none => .ok none, backend.opened.store) := by
  rw [Backend.pool, Backend.opened]
  cases backend.executeFault with
  | some fault => rfl
  | none => exact (Store.answer_mk_nil _ _ _).trans (by rw [backend.engine.execute_createGuilds])

theorem run_openPool (backend : Backend) (url : Value) (database : Database) :
    openPool backend url database =
      match backend.connectFault with
      | some fault => ⟨[.poolOpened url], database, .error fault⟩
      | none => ⟨[.poolOpened url], ⟨some backend.pool⟩, .ok ()⟩ := by
  rw [openPool, Action.run_emit_bind]
  cases backend.connectFault <;> rfl

/-- Creating the table leaves the pool open, whether it fails or not. -/
theorem run_createTables (backend : Backend) :
    createTables ⟨some backend.pool⟩ =
      match backend.executeFault with
      | some fault => ⟨[.queried .createGuilds], ⟨some backend.opened⟩, .error fault⟩
      | none =>
        ⟨[.queried .createGuilds, .logged (.info "Database" "Database tables initialized")],
          ⟨some backend.opened⟩, .ok ()⟩ := by
  rw [createTables, Action.run_get_bind]
  dsimp only
  rw [Action.run_emit_bind, answer_createGuilds]
  cases backend.executeFault <;> rfl

/-- What is logged of a start that fails. -/
def failureNotices (fault : Fault) : List Event :=
  Action.notices (fun message =>
    .error "Database" ("Failed to connect to database: " ++ message)) fault

/-- What is done before the table is asked for. -/
def opening (url : Value) : List Event :=
  [.poolOpened url, .logged (.info "Database" "Database connected successfully")]

/-- Open a pool and create the table through it. -/
def connect (backend : Backend) (url : Value) : Action Database (Option Pool) := do
  openPool backend url
  Action.log (.info "Database" "Database connected successfully")
  createTables
  let database ← Action.get
  return database.pool

theorem run_connect (backend : Backend) (url : Value) (database : Database) :
    connect backend url database =
      match backend.connectFault with
      | some fault => ⟨[.poolOpened url], database, .error fault⟩
      | none =>
        match backend.executeFault with
        | some fault =>
          ⟨opening url ++ [.queried .createGuilds], ⟨some backend.opened⟩, .error fault⟩
        | none =>
          ⟨opening url ++ [.queried .createGuilds,
              .logged (.info "Database" "Database tables initialized")],
            ⟨some backend.opened⟩, .ok (some backend.opened)⟩ := by
  have opened := run_openPool backend url database
  have created := run_createTables backend
  rw [connect]
  cases connecting : backend.connectFault with
  | some fault =>
    rw [connecting] at opened
    exact Action.run_bind_of_eq_error opened
  | none =>
    rw [connecting] at opened
    rw [Action.run_bind_of_eq_ok opened, Action.run_log_bind]
    cases executing : backend.executeFault with
    | some fault =>
      rw [executing] at created
      rw [Action.run_bind_of_eq_error created]
      rfl
    | none =>
      rw [executing] at created
      rw [Action.run_bind_of_eq_ok created]
      rfl

/-- A start that fails says so and leaves the connection as the failing step left it. -/
theorem run_start_of_error {backend : Backend} {database left : Database} {url : Value}
    (given : url.truthy = true) {fault : Fault} {events : List Event}
    (h : connect backend url database = ⟨events, left, .error fault⟩) :
    start backend url database = ⟨events ++ failureNotices fault, left, .error fault.told⟩ := by
  rw [start, if_neg (by simp [given])]
  exact Action.run_telling_of_eq_error h

/-- **What a start may come to.** There is no address; or no pool can be opened, and nothing has
changed; or a pool is open, with or without the table. -/
theorem start_cases {motive : Outcome Database (Option Pool) → Prop} (backend : Backend)
    (url : Value) (database : Database)
    (skipped : url.truthy = false →
      motive ⟨[.logged (.warning "Database"
        "DATABASE_URL not set - guild prefixes and aliases disabled")], database, .ok none⟩)
    (refused : ∀ fault, backend.connectFault = some fault →
      motive ⟨.poolOpened url :: failureNotices fault, database, .error fault.told⟩)
    (unprepared : ∀ fault, backend.connectFault = none → backend.executeFault = some fault →
      motive ⟨opening url ++ .queried .createGuilds :: failureNotices fault,
        ⟨some backend.opened⟩, .error fault.told⟩)
    (started : backend.connectFault = none → backend.executeFault = none →
      motive ⟨opening url ++ [.queried .createGuilds,
        .logged (.info "Database" "Database tables initialized")],
        ⟨some backend.opened⟩, .ok (some backend.opened)⟩) :
    motive (start backend url database) := by
  cases given : url.truthy with
  | false =>
    rw [start, if_pos (by simp [given])]
    exact skipped given
  | true =>
    have connected := run_connect backend url database
    cases connecting : backend.connectFault with
    | some fault =>
      rw [connecting] at connected
      rw [run_start_of_error given connected]
      exact refused fault connecting
    | none =>
      cases executing : backend.executeFault with
      | some fault =>
        rw [connecting, executing] at connected
        rw [run_start_of_error given connected, List.append_assoc]
        exact unprepared fault connecting executing
      | none =>
        rw [connecting, executing] at connected
        rw [start, if_neg (by simp [given])]
        change motive (Action.telling _ (connect backend url) database)
        rw [Action.run_telling_of_eq_ok connected]
        exact started connecting executing

/-! ### Histories -/

/-- Something that is done with the connection. -/
inductive Operation where
  /-- The database is started, and behaves in some way. -/
  | start (backend : Backend) (url : Value)
  /-- The connection is closed. -/
  | close

/-- The connection after an operation, whether it succeeded or not. -/
def perform (database : Database) : Operation → Database
  | .start backend url => (start backend url database).state
  | .close => (close database).state

/-- The connection after some operations, one after another. -/
def after (database : Database) (history : List Operation) : Database :=
  history.foldl perform database

/-- **What a start that fails leaves.** If no pool could be opened, the connection is what it was.
If the table could not be created, the new pool is open, in the place of whatever was open before.
The fault is what is left of the cause once it was told of. -/
theorem state_of_start_eq_error (history : List Operation) (backend : Backend) (url : Value)
    (fault : Fault) (h : (start backend url (after initial history)).result = .error fault) :
    ∃ cause : Fault, fault = cause.told ∧
      ((backend.connectFault = some cause ∧
          (start backend url (after initial history)).state = after initial history) ∨
        (backend.connectFault = none ∧ backend.executeFault = some cause ∧
          (start backend url (after initial history)).state.isOpen = true ∧
          (start backend url (after initial history)).state.pool = some backend.opened)) := by
  revert h
  refine start_cases (motive := fun outcome => outcome.result = .error fault →
    ∃ cause : Fault, fault = cause.told ∧
      ((backend.connectFault = some cause ∧ outcome.state = after initial history) ∨
        (backend.connectFault = none ∧ backend.executeFault = some cause ∧
          outcome.state.isOpen = true ∧ outcome.state.pool = some backend.opened)))
    backend url (after initial history) ?_ ?_ ?_ ?_
  · rintro _ ⟨⟩
  · rintro cause refused ⟨⟩
    exact ⟨cause, rfl, Or.inl ⟨refused, rfl⟩⟩
  · rintro cause opened unprepared ⟨⟩
    exact ⟨cause, rfl, Or.inr ⟨opened, unprepared, rfl, rfl⟩⟩
  · rintro _ _ ⟨⟩

/-- A database in which no table can be created. -/
def tableless : Backend :=
  { engine := .inMemory, executeFault := some (.raised .runtime "no tables") }

/-- A database that cannot be reached. -/
def unreachable : Backend :=
  { engine := .inMemory, connectFault := some (.raised .system "no route") }

/-- A database without faults. -/
def faultless : Backend := { engine := .inMemory }

/-- After a start that succeeded and one that left another pool, a third one changes nothing. -/
theorem state_of_start_eq_error_unreachable :
    let history :=
      [.start faultless (.text "postgres://a"), .start tableless (.text "postgres://b")]
    (start unreachable (.text "postgres://c") (after initial history)).result =
        .error (.raised .system "no route") ∧
      (start unreachable (.text "postgres://c") (after initial history)).state =
        after initial history := by
  intro history
  have failed : (start unreachable (.text "postgres://c") (after initial history)).result =
      .error (.raised .system "no route") := rfl
  refine ⟨failed, ?_⟩
  obtain ⟨-, -, ⟨-, same⟩ | ⟨reached, -⟩⟩ :=
    state_of_start_eq_error history unreachable (.text "postgres://c") _ failed
  · exact same
  · cases reached

/-- **A start that fails may leave a connection behind.** Nothing was open before, and what a
closing closes afterwards is the pool of the start that failed. -/
theorem isOpen_start_tableless :
    (start tableless (.text "postgres://x") initial).result =
        .error (.raised .runtime "no tables") ∧
      initial.isOpen = false ∧
      (start tableless (.text "postgres://x") initial).state.isOpen = true ∧
      (close initial).events = [] ∧
      (close (start tableless (.text "postgres://x") initial).state).events =
        [.poolClosed, .logged (.info "Database" "Database connection closed")] :=
  ⟨rfl, rfl, rfl, rfl, rfl⟩

end Database

end CommandRouter
