import CommandRouter.Handler
import CommandRouter.Logging
import CommandRouter.Store.Basic

/-!
# Actions and their trace

What the router does to the world outside is recorded as a trace of events: messages for the log,
statements for the row store, runs of handlers, and texts sent to channels. An action transforms a
state, adds to the trace, and ends with a result or a fault. A fault keeps what was done before:
a line that was written and a statement that was sent cannot be taken back, so an action that fails
leaves its state and its trace to whoever recovers from the fault.

The trace holds messages for the log as they are handed in. Which of them are written is decided
when a `Report` is made of the trace, so no action depends on the levels of the log.

## Main definitions

* `Event` is one thing done to the world outside.
* `Outcome` is how an action ends.
* `Action` is a function from a state to an outcome, with the operations of a monad.
* `Action.attempt` turns a fault into a result, and `Action.recover` deals with one.
  `Action.telling` logs it and lets it go on.
* `Action.zoom` acts on a part of the state, and `Action.noting` lets the state take note of what
  was done.
-/

namespace CommandRouter

/-- One thing done to the world outside. -/
inductive Event where
  /-- A message was handed to the log. -/
  | logged (notice : Notice)
  /-- A statement was sent to the row store. -/
  | queried (statement : Statement)
  /-- A connection pool was opened. -/
  | poolOpened (url : Value)
  /-- A connection pool was closed. -/
  | poolClosed
  /-- A handler was run. -/
  | called (call : Call)
  /-- Something was sent to a channel, usually a text. -/
  | sent (content : Value)

namespace Event

/-- The message of an event that is one. -/
def notice? : Event → Option Notice
  | logged notice => some notice
  | _ => none

/-- The text and the parameters of an event that concerns the database. -/
def statement? : Event → Option (String × List Value)
  | queried statement => some (statement.sql, statement.parameters)
  | poolOpened url => some ("create_pool", [url, .int 1, .int 10, .int 60])
  | poolClosed => some ("close", [])
  | _ => none

/-- The run of an event that is one. -/
def call? : Event → Option Call
  | called call => some call
  | _ => none

/-- What an event sent, if it did. -/
def sent? : Event → Option Value
  | sent content => some content
  | _ => none

end Event

/-- How an action ends: what it did, the state it leaves, and its result or fault. -/
structure Outcome (σ α : Type) where
  /-- What was done to the world outside, in order. -/
  events : List Event
  /-- The state that is left. -/
  state : σ
  /-- The result, or the fault that ended the action. -/
  result : Except Fault α

/-- A function from a state to an outcome. -/
def Action (σ α : Type) : Type := σ → Outcome σ α

namespace Action

variable {σ τ α β : Type}

/-- End with a result. -/
def pure (a : α) : Action σ α := fun s => ⟨[], s, .ok a⟩

/-- Go on with the result of an action, unless it ended with a fault. -/
def bind (action : Action σ α) (next : α → Action σ β) : Action σ β := fun s =>
  let first := action s
  match first.result with
  | .ok a =>
    let second := next a first.state
    ⟨first.events ++ second.events, second.state, second.result⟩
  | .error fault => ⟨first.events, first.state, .error fault⟩

instance : Monad (Action σ) where
  pure := pure
  bind := bind

/-- End with a fault. -/
def raise (fault : Fault) : Action σ α := fun s => ⟨[], s, .error fault⟩

/-- End with a given result or fault. -/
def ofExcept (result : Except Fault α) : Action σ α := fun s => ⟨[], s, result⟩

/-- The state. -/
def get : Action σ σ := fun s => ⟨[], s, .ok s⟩

/-- Replace the state. -/
def set (s : σ) : Action σ Unit := fun _ => ⟨[], s, .ok ()⟩

/-- Change the state. -/
def modify (f : σ → σ) : Action σ Unit := fun s => ⟨[], f s, .ok ()⟩

/-- Do something to the world outside. -/
def emit (event : Event) : Action σ Unit := fun s => ⟨[event], s, .ok ()⟩

/-- Do several things to the world outside. -/
def emitAll (events : List Event) : Action σ Unit := fun s => ⟨events, s, .ok ()⟩

/-- Hand a message to the log. -/
def log (notice : Notice) : Action σ Unit := emit (.logged notice)

/-- Hand a message about a fault to the log. That the fault has no message is a fault of its own. -/
def logFault (notice : String → Notice) (fault : Fault) : Action σ Unit := do
  let message ← ofExcept fault.message
  log (notice message)

/-- Run an action and go on with its result or its fault. -/
def attempt (action : Action σ α) : Action σ (Except Fault α) := fun s =>
  let outcome := action s
  ⟨outcome.events, outcome.state, .ok outcome.result⟩

/-- Run an action, and a handler of its fault if it ends with one that is not an interruption by
the user. -/
def recover (action : Action σ α) (handle : Fault → Action σ α) : Action σ α := do
  match ← action.attempt with
  | .ok a => pure a
  | .error fault => if fault.isInterrupt then raise fault else handle fault

/-- Run an action, and log its fault if it ends with one. The fault goes on. -/
def telling (notice : String → Notice) (action : Action σ α) : Action σ α :=
  recover action fun fault => do
    logFault notice fault
    raise fault

/-- Run an action and go on with its result together with its trace. -/
def listen (action : Action σ α) : Action σ (α × List Event) := fun s =>
  let outcome := action s
  ⟨outcome.events, outcome.state, outcome.result.map fun a => (a, outcome.events)⟩

/-- Run an action and let the state take note of its trace, also if it ends with a fault. -/
def noting (note : List Event → σ → σ) (action : Action σ α) : Action σ α := fun s =>
  let outcome := action s
  { outcome with state := note outcome.events outcome.state }

/-- Run an action on a part of the state. -/
def zoom (part : σ → τ) (replace : τ → σ → σ) (action : Action τ α) : Action σ α := fun s =>
  let outcome := action (part s)
  ⟨outcome.events, replace outcome.state s, outcome.result⟩

end Action

end CommandRouter
