import CommandRouter.Fault
import CommandRouter.Table
import CommandRouter.Value

/-!
# Rows

A row holds a value for each of its columns. What is to be stored is a record, whose columns are
named by texts. What the store gives back is usually of that form, but nothing says so, and a row
may have columns that are named by any values; only columns that are texts are ever looked up.

## Main definitions

* `Record` is a row to be stored.
* `Row` is a stored row, with `Row.ofRecord` and `Row.get?`.
* `joinable` are the texts of values that must be texts to be joined.

## Main results

* `Row.get?_ofRecord` looks a column up in a record that has been stored.
-/

namespace CommandRouter

/-- A row to be stored: a value for each column, in the order of the columns. -/
abbrev Record := Table String Value

/-- A stored row. -/
structure Row where
  /-- The columns with their values, in order. No two columns name the same key. -/
  pairs : List (Value × Value)

/-- The texts that some values are, where the first one has an index. -/
def joinable (index : Nat) : List Value → Except Fault (List String)
  | [] => .ok []
  | .text s :: later => do return s :: (← joinable (index + 1) later)
  | other :: _ => .error (.notJoined index other.kindName)

namespace Row

/-- The row in which a record is stored. -/
def ofRecord (record : Record) : Row :=
  ⟨record.toList.map fun entry => (.text entry.1, entry.2)⟩

/-- The value of a column. -/
def get? (row : Row) (column : String) : Option Value := Value.lookupText column row.pairs

/-- The columns, in order. -/
def columns (row : Row) : List Value := row.pairs.map Prod.fst

/-- The values of the columns, in order. -/
def values (row : Row) : List Value := row.pairs.map Prod.snd

/-- Whether a row has no columns. -/
def isEmpty (row : Row) : Bool := row.pairs.isEmpty

/-- The record that a row amounts to if all its columns are texts. -/
def record (row : Row) : Except Fault Record :=
  (joinable 0 row.columns).map fun columns => .ofList (columns.zip row.values)

theorem get?_ofRecord (record : Record) (column : String) :
    (ofRecord record).get? column = record.get? column := by
  unfold get? ofRecord Table.get? Table.toList
  induction record.entries with
  | nil => rfl
  | cons entry later ih =>
    by_cases same : entry.1 = column
    · simp [Value.lookupText, Table.lookupEntry, same]
    · simp [Value.lookupText, Table.lookupEntry, same, ih]

end Row

end CommandRouter
