import CommandRouter.Store.Guilds
import CommandRouter.Store.Insertion
import CommandRouter.Table.Lemmas

/-!
# A store in memory

The simplest engine looks rows up and puts them in place, and knows nothing of the language of
statements but what it needs for that. It is a store of guilds all the same.

## Main definitions

* `Engine.inMemory` is the engine, with `Engine.insertRow` and `Engine.select` for what it does, and
  `GuildEngine.inMemory` says that it keeps the rows of guilds.
-/

namespace CommandRouter

namespace Engine

variable {statement : Statement}

/-- The result of storing a row under the value of its `id` column. -/
def insertRow (rows : Rows) (row : Row) : Except Fault (Option Row) × Rows :=
  match row.get? "id" with
  | none => (.error (.missingKey "id"), rows)
  | some id =>
    if id.isKey then (.ok (some row), rows.keep id (some row))
    else (.error (.notAKey id.kindName), rows)

/-- The result of looking a row up. -/
def select (rows : Rows) (id : Value) : Except Fault (Option Row) × Rows :=
  if id.isKey then (.ok (rows.find? id), rows)
  else (.error (.notAKey id.kindName), rows)

/-- The engine that understands a statement by its text and its parameters alone. An insertion must
list its columns; any other statement is taken to look up the row whose id comes first among its
parameters. -/
def inMemory : Engine where
  execute rows statement :=
    if statement.isInsertion then
      match statement.listedColumns? with
      | some columns => insertRow rows (.ofRecord (.ofList (columns.zip statement.parameters)))
      | none => (.error (.lacks "NoneType" "group"), rows)
    else
      match statement.parameters with
      | [] => (.ok none, rows)
      | id :: _ => select rows id

/-! ### The laws of a store of guilds -/

theorem execute_inMemory_of_insertion (rows : Rows) (insertion : statement.isInsertion = true)
    {columns : List String} (listed : statement.listedColumns? = some columns) :
    inMemory.execute rows statement =
      insertRow rows (.ofRecord (.ofList (columns.zip statement.parameters))) := by
  simp only [inMemory, insertion, if_true, listed]

theorem execute_inMemory_of_lookup (rows : Rows) (lookup : statement.isInsertion = false)
    {id : Value} {others : List Value} (parameters : statement.parameters = id :: others) :
    inMemory.execute rows statement = select rows id := by
  simp only [inMemory, lookup, Bool.false_eq_true, if_false, parameters]

namespace Harmless

variable {rows : Rows}

theorem of_ok (row : Option Row) (rows' : Rows) : Harmless rows (.ok row, rows') := by
  rintro _ ⟨⟩

theorem of_error {fault : Fault} (h : fault.told.isInterrupt = false) :
    Harmless rows (.error fault, rows) := by
  rintro _ ⟨⟩
  exact ⟨h, rfl⟩

end Harmless

theorem harmless_insertRow (rows : Rows) (row : Row) : Harmless rows (insertRow rows row) := by
  rw [insertRow]
  split
  · exact .of_error rfl
  · split
    · exact .of_ok _ _
    · exact .of_error rfl

theorem harmless_select (rows : Rows) (id : Value) : Harmless rows (select rows id) := by
  rw [select]
  split
  · exact .of_ok _ _
  · exact .of_error rfl

theorem harmless_inMemory (rows : Rows) (statement : Statement) :
    Harmless rows (inMemory.execute rows statement) := by
  simp only [inMemory]
  split
  · split
    · exact harmless_insertRow _ _
    · exact .of_error rfl
  · split
    · exact .of_ok _ _
    · exact harmless_select _ _

end Engine

/-- The store in memory keeps the rows of guilds. -/
def GuildEngine.inMemory : GuildEngine where
  toEngine := .inMemory
  stored _ record := .ofRecord record
  get?_stored _ record column value h := by rw [Row.get?_ofRecord, h]
  execute_find rows id :=
    Engine.execute_inMemory_of_lookup rows (Statement.isInsertion_find _) rfl
  execute_upsert rows record id columns named := by
    rw [Engine.execute_inMemory_of_insertion rows (Statement.isInsertion_upsert columns)
      (Statement.listedColumns?_upsert columns), Statement.parameters, ← columns,
      Table.ofList_zip_keys_values, Engine.insertRow, Row.get?_ofRecord, named]
    rfl
  execute_createGuilds rows := by
    have lookup := Statement.isInsertion_createGuilds
    simp only [Engine.inMemory, lookup, Bool.false_eq_true, if_false]
    rfl
  harmless := Engine.harmless_inMemory

end CommandRouter
