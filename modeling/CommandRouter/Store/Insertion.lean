import CommandRouter.Store.Statement
import CommandRouter.Text.Alphanumeric

/-!
# Insertions and their columns

The store knows a statement by its text alone. It takes a statement for an insertion if the words
`INSERT INTO` occur anywhere in the text, also in a comment or in quotes, and it reads the columns
at the first place of the text where these words, the name of a table and a list in brackets follow
each other, one space apart. So the words may occur where no columns are listed, and the columns may
be those of a later insertion.

The text counts as it is sent. Words that stand two spaces or a line apart do not make an insertion,
and a column keeps the blanks inside its name.

## Main definitions

* `Statement.isInsertion` decides whether a statement is taken for an insertion.
* `Statement.listedColumns?` is the list of the columns of an insertion, if it has one.

## Main results

* `Statement.isInsertion_find`, `Statement.isInsertion_createGuilds`, `Statement.isInsertion_upsert`
  and `Statement.listedColumns?_upsert` say how the statements about guilds are understood.
-/

namespace CommandRouter.Statement

/-- Whether a statement is taken for an insertion. -/
def isInsertion (statement : Statement) : Bool :=
  occursIn "INSERT INTO".toList statement.text.toList

/-- Whether a character can stand in the name of a table. -/
def isNameCharacter (c : Char) : Bool :=
  isAlphanumeric c || c == '_'

/-- What stands in front of the next closing bracket, if there is one. -/
def untilClosed? (cs : List Char) : Option (List Char) :=
  if cs.contains ')' then some (cs.takeWhile (· != ')')) else none

/-- The list in brackets after the name of a table and a space. The name must not be empty. -/
def listAfterName? : List Char → Option (List Char)
  | [] => none
  | c :: cs =>
    if isNameCharacter c then
      (" (".toList.isPrefixOf? (cs.dropWhile isNameCharacter)).bind untilClosed?
    else none

/-- The list of columns of the first insertion with such a list. -/
def columnList? : List Char → Option (List Char)
  | [] => none
  | c :: cs =>
    match ("INSERT INTO ".toList.isPrefixOf? (c :: cs)).bind listAfterName? with
    | some list => some list
    | none => columnList? cs

/-- The columns that an insertion lists, without the blanks around them. -/
def listedColumns? (statement : Statement) : Option (List String) :=
  (columnList? statement.text.toList).map fun list =>
    (splitAt ',' (String.ofList list)).map trim

/-! ### The statements about guilds -/

/-- Looking a guild up is no insertion. -/
theorem isInsertion_find (id : Value) : (find "guilds" "id" id).isInsertion = false := by
  rw [isInsertion, text]
  decide +kernel

/-- Creating the table of guilds is no insertion. -/
theorem isInsertion_createGuilds : createGuilds.isInsertion = false := by
  rw [isInsertion, createGuilds, text]
  simp only [String.toList_append]
  decide +kernel

/-- The text of the insertion of the settings of a guild. -/
theorem text_upsert {record : Record} (columns : record.keys = ["id", "prefixes", "aliases"]) :
    (upsert ⟨"guilds", record, .ofList ["id"]⟩).text = clauseLines [
      "INSERT INTO guilds (id, prefixes, aliases)",
      "VALUES ($1, $2, $3)",
      "ON CONFLICT (id)",
      "DO UPDATE SET prefixes = EXCLUDED.prefixes, aliases = EXCLUDED.aliases, " ++
        "updated_at = CURRENT_TIMESTAMP",
      "RETURNING *"] := by
  have count : record.values.length = 3 := by
    have sizes : record.values.length = record.keys.length := by simp [Table.values, Table.keys]
    rw [sizes, columns]
    rfl
  rw [text, Upsert.text, Upsert.placeholders, Upsert.assignments, Upsert.columns, columns, count]
  dsimp only
  decide +kernel

/-- Storing the settings of a guild is an insertion. -/
theorem isInsertion_upsert {record : Record}
    (columns : record.keys = ["id", "prefixes", "aliases"]) :
    (upsert ⟨"guilds", record, .ofList ["id"]⟩).isInsertion = true := by
  rw [isInsertion, text_upsert columns]
  decide +kernel

/-- The columns of the settings of a guild are read off the text of their insertion. -/
theorem listedColumns?_upsert {record : Record}
    (columns : record.keys = ["id", "prefixes", "aliases"]) :
    (upsert ⟨"guilds", record, .ofList ["id"]⟩).listedColumns? =
      some ["id", "prefixes", "aliases"] := by
  rw [listedColumns?, text_upsert columns]
  decide +kernel

end CommandRouter.Statement
