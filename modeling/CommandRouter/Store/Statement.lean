import CommandRouter.Store.Row
import CommandRouter.Text.Words
import CommandRouter.Value.Operators

/-!
# Statements

The row store is spoken to in statements: find the row with an id, insert a record or update it,
or any other statement given by its text. Values never stand in the text of a statement; they are
its parameters, and the text refers to them by placeholders. The names of tables and columns do
stand in the text, as they are.

A statement is sent as it is written, with every clause on a line of its own. On one line it is only
shown.

## Main definitions

* `Upsert` is the insertion of a record with the columns by which a conflict is recognised, with
  `Upsert.columns`, `Upsert.placeholders` and `Upsert.assignments`.
* `Upsert.ofRow` is the insertion of a row, where a value gives the conflict columns.
* `Statement` is a statement, with `Statement.text`, `Statement.sql` and `Statement.parameters`.
-/

namespace CommandRouter

/-- The text of a statement whose clauses stand on lines of their own. The clauses are indented by
twelve spaces, and after the last of them a line of eight spaces is left open. -/
def clauseLines (clauses : List String) : String :=
  "\n" ++ String.join (clauses.map fun clause => "            " ++ clause ++ "\n") ++ "        "

/-- The columns by which a conflict is recognised. -/
structure ConflictColumns where
  /-- The columns as they are listed. -/
  listed : List String
  /-- The columns that an update leaves alone. -/
  kept : List String
  deriving Repr, DecidableEq

/-- The insertion of a record, which updates the stored row in case of a conflict. -/
structure Upsert where
  /-- The table. -/
  table : String
  /-- The record: a value for each column. -/
  record : Record
  /-- The columns by which a conflict is recognised. -/
  conflict : ConflictColumns

/-- The new value of a column when a stored row is updated. -/
inductive Update where
  /-- The value that was to be inserted. -/
  | inserted
  /-- The time of the update. -/
  | currentTime
  deriving Repr, DecidableEq

namespace Upsert

/-- The columns that are inserted. -/
def columns (upsert : Upsert) : List String := upsert.record.keys

/-- The placeholders for the values, which are numbered from one. -/
def placeholders (upsert : Upsert) : List String :=
  (List.range upsert.record.values.length).map fun i => "$" ++ toString (i + 1)

/-- The columns that an update assigns, in order, with their new values: every column that does
not take part in the conflict, and the time of the update. -/
def assignments (upsert : Upsert) : List (String × Update) :=
  (upsert.columns.filter fun column => !upsert.conflict.kept.contains column).map
    (fun column => (column, .inserted)) ++ [("updated_at", .currentTime)]

/-- The text of an assignment. -/
def assignmentText : String × Update → String
  | (column, .inserted) => column ++ " = EXCLUDED." ++ column
  | (column, .currentTime) => column ++ " = CURRENT_TIMESTAMP"

/-- The text of the statement. -/
def text (upsert : Upsert) : String :=
  clauseLines [
    "INSERT INTO " ++ upsert.table ++ " (" ++ ", ".intercalate upsert.columns ++ ")",
    "VALUES (" ++ ", ".intercalate upsert.placeholders ++ ")",
    "ON CONFLICT (" ++ ", ".intercalate upsert.conflict.listed ++ ")",
    "DO UPDATE SET " ++ ", ".intercalate (upsert.assignments.map assignmentText),
    "RETURNING *"]

end Upsert

/-! ### Conflict columns -/

/-- Whether one list of characters occurs in another. -/
def occursIn (needle : List Char) : List Char → Bool
  | [] => needle.isEmpty
  | c :: cs => needle.isPrefixOf (c :: cs) || occursIn needle cs

namespace ConflictColumns

/-- The conflict columns of a list, which are the ones that an update leaves alone. -/
def ofList (columns : List String) : ConflictColumns := ⟨columns, columns⟩

/-- Check that every column of a row can be looked for in what a value gives as conflict columns. In
a text only texts can be looked for. -/
def checkMembers (conflict : Value) : List Value → Except Fault Unit
  | [] => .ok ()
  | column :: later =>
    match conflict, column with
    | .list _, _ | .dict _, _ | .text _, .text _ => checkMembers conflict later
    | .text _, column => .error (.notContained column.kindName)
    | conflict, _ => .error (.noMembers conflict.kindName)

/-- The texts that a value lists as conflict columns. -/
def listedBy (conflict : Value) : Except Fault (List String) :=
  match conflict.items with
  | .ok items => joinable 0 items
  | .error _ => .error .notJoinable

/-- The conflict columns that a value gives for a record. Of a text the characters are listed, and
an update leaves alone every column that occurs in the text. -/
def ofValue (record : Record) (conflict : Value) : Except Fault ConflictColumns :=
  (listedBy conflict).map fun listed =>
    match conflict with
    | .text s => ⟨listed, record.keys.filter fun column => occursIn column.toList s.toList⟩
    | _ => ofList listed

end ConflictColumns

/-- The insertion of a row, where a value gives the conflict columns. The columns of the row are
looked at before those of the conflict. -/
def Upsert.ofRow (table : String) (row : Row) (conflict : Value) : Except Fault Upsert := do
  ConflictColumns.checkMembers conflict row.columns
  let record ← row.record
  return ⟨table, record, ← ConflictColumns.ofValue record conflict⟩

/-- A statement sent to the row store. -/
inductive Statement where
  /-- Find the row whose key column has a value. -/
  | find (table keyColumn : String) (id : Value)
  /-- Insert a record or update the stored row. -/
  | upsert (insertion : Upsert)
  /-- Any other statement. -/
  | other (text : String) (parameters : List Value)

namespace Statement

/-- The text of a statement, as it is sent. -/
def text : Statement → String
  | find table keyColumn _ =>
    clauseLines ["SELECT * FROM " ++ table, "WHERE " ++ keyColumn ++ " = $1"]
  | upsert insertion => insertion.text
  | other text _ => text

/-- The text of a statement on one line, with every run of blanks replaced by a single space. -/
def sql (statement : Statement) : String :=
  " ".intercalate (words statement.text)

/-- The values that the placeholders of a statement stand for, in order. -/
def parameters : Statement → List Value
  | find _ _ id => [id]
  | upsert insertion => insertion.record.values
  | other _ parameters => parameters

/-- The statement that creates the table of guild settings if it does not exist. -/
def createGuilds : Statement :=
  .other ("CREATE TABLE IF NOT EXISTS guilds ( id VARCHAR(255) PRIMARY KEY, " ++
    "prefixes TEXT NOT NULL DEFAULT '\x7b\x7d', aliases TEXT NOT NULL DEFAULT '\x7b\x7d', " ++
    "created_at TIMESTAMP DEFAULT CURRENT_TIMESTAMP, " ++
    "updated_at TIMESTAMP DEFAULT CURRENT_TIMESTAMP )") []

end Statement

end CommandRouter
