import CommandRouter.Action

/-!
# Sources of rows

A source is one table of the row store, as one component uses it. While it is not connected,
statements are skipped with a warning. A failing statement is logged, and the fault goes on.

## Main definitions

* `RowSource` is a table of the store with the name under which its user logs.
* `RowSource.query`, `RowSource.find` and `RowSource.upsert` send statements.
* `RowSource.upsertRow` is the insertion of what may not be fit for it.
-/

namespace CommandRouter

/-- A table of the row store, as one component uses it. -/
structure RowSource where
  /-- The name under which the component logs. -/
  name : String
  /-- The table. -/
  table : String
  /-- The column that holds the id of a row. -/
  keyColumn : String
  /-- Whether the store can be reached. -/
  connected : Bool
  /-- The store. -/
  store : Store

namespace RowSource

/-- Send a statement to the store. -/
def send (statement : Statement) : Action RowSource (Option Row) := do
  Action.emit (.queried statement)
  let source ← Action.get
  let (result, store) := source.store.answer statement
  Action.set { source with store }
  Action.ofExcept result

/-- Work with the store, unless it is not connected. -/
def connectedly (work : Action RowSource (Option Row)) : Action RowSource (Option Row) := do
  let source ← Action.get
  if source.connected then
    Action.telling (fun message => .error source.name ("Query failed: " ++ message)) work
  else
    Action.log (.warning source.name "Database not connected, query skipped")
    return none

/-- Send a statement, unless the store is not connected. -/
def query (statement : Statement) : Action RowSource (Option Row) :=
  connectedly (send statement)

/-- A row counts as found only if it has columns. -/
def present (row : Option Row) : Option Row :=
  row.filter fun row => !row.isEmpty

/-- The row with an id. -/
def find (id : Value) : Action RowSource (Option Row) := do
  let source ← Action.get
  let row ← query (.find source.table source.keyColumn id)
  return present row

/-- Insert a record or update the stored row; the result is the row as it is then stored. -/
def insert (insertion : Upsert) : Action RowSource (Option Row) := do
  let row ← query (.upsert insertion)
  return present row

/-- Insert a record or update the stored row, where a conflict is told by a list of columns. -/
def upsert (record : Record) (conflict : List String) : Action RowSource (Option Row) := do
  let source ← Action.get
  insert ⟨source.table, record, .ofList conflict⟩

/-- Insert a row that need not be a record, where a conflict is told by any value. -/
def upsertRow (row : Row) (conflict : Value) : Action RowSource (Option Row) := do
  let source ← Action.get
  let insertion ← Action.ofExcept (Upsert.ofRow source.table row conflict)
  insert insertion

end RowSource

end CommandRouter
