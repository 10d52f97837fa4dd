import CommandRouter.Number.Basic
import CommandRouter.Text.Quoted

/-!
# Values of rows and settings

What comes from outside — the columns of a stored row, the values inside the maps they hold, the
settings of a command — is not typed further: a value is nothing, a truth value, a number, a text, a
list of values or a map between values. A text that was written with escapes may hold halves of
surrogate pairs. It is then no text of characters, and it is kept as its code points.

## Main definitions

* `Value` is such a value.
* `Value.truthy` decides whether a value counts as present.
* `Value.display` is the text a value is shown as; texts inside lists and maps are quoted.
* `Value.key?` is the key that a value names, a `Key`.
* `Value.marked` marks every not-a-number in a value.
-/

namespace CommandRouter

/-- A value of a row or of a settings map. -/
inductive Value where
  /-- Nothing. -/
  | null
  /-- A truth value. -/
  | bool (b : Bool)
  /-- An integer. -/
  | int (n : Int)
  /-- A double-precision number. -/
  | float (x : Binary64)
  /-- A text. -/
  | text (s : String)
  /-- A string of code points that is no text, because some of them are halves of pairs. -/
  | ragged (codes : List Nat)
  /-- A list of values. -/
  | list (items : List Value)
  /-- A map, as pairs of a key and a value with distinct keys, in order. -/
  | dict (pairs : List (Value × Value))
  deriving Inhabited

/-- What a value used as a key names. -/
inductive Key where
  /-- Nothing. -/
  | null
  /-- A text. -/
  | text (s : String)
  /-- A string of code points that is no text. -/
  | ragged (codes : List Nat)
  /-- A place on the number line. -/
  | number (p : LinePoint)
  deriving DecidableEq

namespace Value

/-- Whether a value counts as present: nothing, false, zeros and empty texts, lists and maps do
not. -/
def truthy : Value → Bool
  | null => false
  | bool b => b
  | int n => n != 0
  | float x => !x.isZero
  | text s => !s.isEmpty
  | ragged codes => !codes.isEmpty
  | list items => !items.isEmpty
  | dict pairs => !pairs.isEmpty

/-- The number that a value is, truth values counting as one and zero. -/
def number? : Value → Option Number
  | bool b => some (.int (if b then 1 else 0))
  | int n => some (.int n)
  | float x => some (.float x)
  | _ => none

/-- The value that a number is. -/
def ofNumber : Number → Value
  | .int n => int n
  | .float x => float x

/-- The string of some code points. -/
def ofCodes (codes : List Nat) : Value :=
  match textOfCodes? codes with
  | some s => text s
  | none => ragged codes

/-- The code points of a string. -/
def codes? : Value → Option (List Nat)
  | text s => some (s.toList.map Char.toNat)
  | ragged codes => some codes
  | _ => none

/-- The key that a value names. Numbers of any kind name the same key if they are equal.
Not-a-number, lists and maps name none. -/
def key? (value : Value) : Option Key :=
  match value with
  | null => some .null
  | text s => some (.text s)
  | ragged codes => some (.ragged codes)
  | value => (value.number?.bind Number.point?).map .number

/-- Whether two values name the same key. -/
def sameKey (a b : Value) : Bool :=
  match a.key?, b.key? with
  | some k, some l => decide (k = l)
  | _, _ => false

@[simp] theorem sameKey_text (s t : String) : (text s).sameKey (text t) = (s == t) := by
  simp [sameKey, key?, BEq.beq]

/-- Whether a value may be used as a key, even if it equals no other key. -/
def isKey : Value → Bool
  | list _ => false
  | dict _ => false
  | _ => true

/-- The name of the kind of a value, as messages give it. -/
def kindName : Value → String
  | null => "NoneType"
  | bool _ => "bool"
  | int _ => "int"
  | float _ => "float"
  | text _ => "str"
  | ragged _ => "str"
  | list _ => "list"
  | dict _ => "dict"

/-! ### Text -/

/-- Put texts between brackets, separated by commas. -/
def bracketed (opening : String) (items : List String) (closing : String) : String :=
  opening ++ ", ".intercalate items ++ closing

mutual

/-- The text of a value inside another one. -/
def inner : Value → String
  | null => "None"
  | bool b => if b then "True" else "False"
  | int n => toString n
  | float x => x.text
  | text s => quoted s
  | ragged codes => quotedCodes codes
  | list items => bracketed "[" (innerItems items) "]"
  | dict pairs => bracketed "\x7b" (innerPairs pairs) "\x7d"

/-- The texts of the items of a list. -/
def innerItems : List Value → List String
  | [] => []
  | item :: items => inner item :: innerItems items

/-- The texts of the pairs of a map. -/
def innerPairs : List (Value × Value) → List String
  | [] => []
  | (key, value) :: pairs => (inner key ++ ": " ++ inner value) :: innerPairs pairs

end

/-- The text that a value is shown as, whose integers may have any number of digits. -/
def display : Value → String
  | text s => s
  | ragged codes => escapedCodes codes
  | value => inner value

/-! ### Maps -/

/-- The value under a text in the pairs of a map. -/
def lookupText (key : String) : List (Value × Value) → Option Value
  | [] => none
  | (k, v) :: pairs => if k.sameKey (text key) then some v else lookupText key pairs

/-- The value under a text in a map. -/
def field? (value : Value) (key : String) : Option Value :=
  match value with
  | dict pairs => lookupText key pairs
  | _ => none

/-- The pairs with a value under a key, in the place of the key if it is present and at the end
otherwise. -/
def insertPair (key value : Value) : List (Value × Value) → List (Value × Value)
  | [] => [(key, value)]
  | (k, v) :: pairs =>
    if k.sameKey key then (k, value) :: pairs else (k, v) :: insertPair key value pairs

/-- The pairs of the map that results from inserting pairs one after another. -/
def insertedPairs (pairs : List (Value × Value)) : List (Value × Value) :=
  pairs.foldl (fun ps pair => insertPair pair.1 pair.2 ps) []

/-- The map that results from inserting pairs one after another. -/
def dictOf (pairs : List (Value × Value)) : Value := dict (insertedPairs pairs)

/-! ### Not-a-number inside a value -/

mutual

/-- A value in which every not-a-number has a given payload. Only the numbers of one reading are
marked alike, so a list is known again by its marks although not-a-number equals nothing. -/
def marked (mark : Nat) : Value → Value
  | float (.nan _) => float (.nan mark)
  | list items => list (markedItems mark items)
  | dict pairs => dict (markedPairs mark pairs)
  | value => value

/-- The items of a list, marked. -/
def markedItems (mark : Nat) : List Value → List Value
  | [] => []
  | item :: items => marked mark item :: markedItems mark items

/-- The pairs of a map, marked. -/
def markedPairs (mark : Nat) : List (Value × Value) → List (Value × Value)
  | [] => []
  | (key, value) :: pairs => (marked mark key, marked mark value) :: markedPairs mark pairs

end

/-- Whether two values are one not-a-number, which is known by its mark. -/
def isOneNaN : Value → Value → Bool
  | float (.nan p), float (.nan q) => p != 0 && p == q
  | _, _ => false

end Value

end CommandRouter
