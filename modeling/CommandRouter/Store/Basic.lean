import CommandRouter.Store.Statement

/-!
# The row store

A store keeps rows by id and answers statements. What it makes of a statement is up to its engine,
of which nothing is known here: an engine takes a statement and the rows, and gives an answer and
the rows that there are afterwards. Besides, a store fails on demand. Failures wait in a queue, and
each one is used up by one statement, before that statement has come to the engine.

An id that is not-a-number equals no other id, not even itself. So every row that is kept under one
stays, and none is ever found under it.

## Main definitions

* `Rows` are the rows of a store, each at a `Place`.
* `Engine` is what makes something of statements, and `Engine.Harmless` says that what it made of
  one has done no harm where it failed.
* `Store` is a store, and `Store.answer` is its answer to a statement.

## Main results

* `Store.answer_mk_nil` says what is left to the engine.
-/

namespace CommandRouter

/-- Where a row is kept. -/
inductive Place where
  /-- Under a key. -/
  | under (key : Key)
  /-- Under an id that equals no key; the places of this sort are numbered. -/
  | apart (number : Nat)
  deriving DecidableEq

/-- The rows of a store with their ids; a known id may be without a row. -/
abbrev Rows := Table Place (Value × Option Row)

namespace Rows

/-- The place at which a row is kept under an id. Places are never given up, so their number is a
number that no place has. -/
def placeOf (rows : Rows) (id : Value) : Place :=
  match id.key? with
  | some key => .under key
  | none => .apart rows.size

/-- Keep a row under an id, which must be fit for a key. The first spelling of an id stays. -/
def keep (rows : Rows) (id : Value) (row : Option Row) : Rows :=
  let place := rows.placeOf id
  let shown := ((rows.get? place).map Prod.fst).getD id
  rows.insert place (shown, row)

/-- The rows of a list, by their ids. -/
def ofList (pairs : List (Value × Option Row)) : Rows :=
  pairs.foldl (fun rows pair => rows.keep pair.1 pair.2) .empty

/-- The row under an id. -/
def find? (rows : Rows) (id : Value) : Option Row :=
  (rows.get? (rows.placeOf id)).bind Prod.snd

end Rows

/-- What makes something of the statements that a store is sent. -/
structure Engine where
  /-- The answer to a statement, and the rows that there are afterwards. -/
  execute : Rows → Statement → Except Fault (Option Row) × Rows

/-- Whether an answer that is a fault is no interruption, and nothing was written before it. -/
def Engine.Harmless (rows : Rows) (outcome : Except Fault (Option Row) × Rows) : Prop :=
  ∀ fault, outcome.1 = .error fault → fault.told.isInterrupt = false ∧ outcome.2 = rows

/-- The state of a store. -/
structure Store where
  /-- The engine of the store. -/
  engine : Engine
  /-- The rows. -/
  rows : Rows
  /-- The faults with which the next statements fail, in order. -/
  failures : List Fault

namespace Store

/-- The store of those who are not connected to any. -/
def absent : Store := ⟨⟨fun rows _ => (.ok none, rows)⟩, .empty, []⟩

/-- Add a fault to the queue. -/
def fail (store : Store) (fault : Fault) : Store :=
  { store with failures := store.failures ++ [fault] }

/-- Execute a statement, or fail with the oldest fault of the queue and change nothing else. -/
def answer (store : Store) (statement : Statement) : Except Fault (Option Row) × Store :=
  match store.failures with
  | fault :: later => (.error fault, { store with failures := later })
  | [] =>
    let (result, rows) := store.engine.execute store.rows statement
    (result, { store with rows })

/-- Where no fault waits, a statement is left to the engine. -/
theorem answer_mk_nil (engine : Engine) (rows : Rows) (statement : Statement) :
    answer ⟨engine, rows, []⟩ statement =
      ((engine.execute rows statement).1, ⟨engine, (engine.execute rows statement).2, []⟩) :=
  rfl

end Store

end CommandRouter
