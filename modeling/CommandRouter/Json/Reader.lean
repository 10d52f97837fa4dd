import CommandRouter.Number.Reading
import CommandRouter.Value

/-!
# Reading JSON text

The reader accepts the JSON grammar and the names `NaN`, `Infinity` and `-Infinity`. Blanks are
space, tab, line feed and carriage return only; control characters inside strings are refused,
and so is a byte-order mark at the front. Of a repeated key the place of the first and the value
of the last occurrence count.

## Limits

A text that breaks the grammar is malformed, which is all that is said about it. Beyond two limits
a text is not read even if the grammar allows it: an integer may have `maxIntegerDigits` digits, and
lists and maps may stand inside each other only as deep as there is room for. How much room there is
depends on the machine and on what it is doing, so it is not fixed here. What is beyond a limit is a
`Fault`. The text is read from left to right, so whichever of these comes first is reported.

## Main definitions

* `Room` says how much room there is.
* `Json.Failure` says why a text is not read.
* `Json.scanString` reads the body of a string as code points, and `Json.stringValue` is its value.
* `Json.readValue` reads a value at the front of a character list.
* `Json.read` reads a whole text.
-/

namespace CommandRouter

/-- The room that the machine has for reading JSON texts. -/
structure Room where
  /-- How deep lists and maps may stand inside each other. -/
  nesting : Nat
  /-- There is room for a map. -/
  nesting_pos : 0 < nesting := by decide

/-- Room for lists and maps with nothing inside them. -/
def Room.flat : Room := { nesting := 1 }

namespace Json

/-- Why a text is not read. -/
inductive Failure where
  /-- The text breaks the grammar. -/
  | malformed
  /-- The text is beyond a limit. -/
  | beyond (fault : Fault)
  deriving Repr, DecidableEq

/-- Whether a character may stand between the tokens of a JSON text. -/
def isSpace (c : Char) : Bool :=
  c == ' ' || c == '\t' || c == '\n' || c == '\r'

/-- The characters after the blanks at the front. -/
def skipSpace (cs : List Char) : List Char :=
  cs.dropWhile isSpace

/-! ### Strings -/

/-- The character that a one-letter escape stands for. -/
def simpleEscape? (c : Char) : Option Char :=
  if c = '\x22' ∨ c = '\x5C' ∨ c = '/' then some c
  else if c = 'b' then some '\x08'
  else if c = 'f' then some '\x0C'
  else if c = 'n' then some '\n'
  else if c = 'r' then some '\r'
  else if c = 't' then some '\t'
  else none

/-- The code points of a string up to its closing mark, and the characters after it. -/
def scanString : List Char → Except Failure (List Nat × List Char)
  | [] => .error .malformed
  | '\x22' :: rest => .ok ([], rest)
  | '\x5C' :: 'u' :: a :: b :: c :: d :: rest =>
    match hexValues? [a, b, c, d] with
    | none => .error .malformed
    | some unit => do
      let (codes, rest) ← scanString rest
      return (unit :: codes, rest)
  | '\x5C' :: c :: rest =>
    match simpleEscape? c with
    | none => .error .malformed
    | some c => do
      let (codes, rest) ← scanString rest
      return (c.toNat :: codes, rest)
  | c :: rest =>
    if c.toNat < 0x20 then .error .malformed
    else do
      let (codes, rest) ← scanString rest
      return (c.toNat :: codes, rest)

/-- The string of code points as a value: a text if pairs of surrogates can be joined so that none
is left. -/
def stringValue (codes : List Nat) : Value := .ofCodes (joinPairs codes)

/-- The string whose opening mark has been passed, and the characters after it. -/
def readString (cs : List Char) : Except Failure (Value × List Char) := do
  let (codes, rest) ← scanString cs
  return (stringValue codes, rest)

/-! ### Numbers -/

/-- The fraction at the front of a list, without its point, and the rest. There is none unless
the point is followed by a digit. -/
def splitFraction (cs : List Char) : List Char × List Char :=
  match cs with
  | '.' :: d :: rest =>
    if d.isDigit then (d :: rest.takeWhile Char.isDigit, rest.dropWhile Char.isDigit)
    else ([], cs)
  | _ => ([], cs)

/-- The exponent at the front of a list, and the rest. There is none unless the letter and the
sign are followed by a digit. -/
def splitExponent (cs : List Char) : Option Int × List Char :=
  match cs with
  | [] => (none, cs)
  | e :: afterLetter =>
    if e = 'e' ∨ e = 'E' then
      let (negative, body) := splitSign afterLetter
      let digits := body.takeWhile Char.isDigit
      if digits.isEmpty then (none, cs)
      else
        (some (exponentOf negative (digits.map fun d => d.toNat - 48)), body.dropWhile Char.isDigit)
    else (none, cs)

/-- The integer part at the front of a list and the rest: a single zero or digits that do not
start with one. -/
def splitWhole (cs : List Char) : Option (List Char × List Char) :=
  match cs with
  | '0' :: rest => some (['0'], rest)
  | c :: _ =>
    if c.isDigit then some (cs.takeWhile Char.isDigit, cs.dropWhile Char.isDigit) else none
  | [] => none

/-- The number at the front of a list, whose sign has been passed, and the rest. -/
def readNumber (negative : Bool) (cs : List Char) : Except Failure (Value × List Char) :=
  match splitWhole cs with
  | none => .error .malformed
  | some (whole, afterWhole) =>
    let (fraction, afterFraction) := splitFraction afterWhole
    let (exponent, rest) := splitExponent afterFraction
    let digits := (whole ++ fraction).map fun d => d.toNat - 48
    if fraction.isEmpty && exponent.isNone then
      if maxIntegerDigits < whole.length then .error (.beyond (.tooManyDigits whole.length))
      else .ok (.int (if negative then -(ofDigits digits : Int) else ofDigits digits), rest)
    else
      .ok (.float (.ofDigits negative digits (exponent.getD 0 - fraction.length)), rest)

/-! ### Values -/

/-- The characters after a name, if they start with it. -/
def stripName : List Char → List Char → Option (List Char)
  | [], cs => some cs
  | _ :: _, [] => none
  | n :: name, c :: cs => if n = c then stripName name cs else none

/-- The value at the front of a list that is not a string, a list or a map, and the rest. -/
def readScalar (cs : List Char) : Except Failure (Value × List Char) :=
  let names : List (String × Value) := [
    ("null", .null), ("true", .bool true), ("false", .bool false), ("NaN", .float (.nan 0)),
    ("Infinity", .float (.infinite false)), ("-Infinity", .float (.infinite true))]
  let named := names.findSome? fun entry =>
    (stripName entry.1.toList cs).map fun rest => (entry.2, rest)
  match named with
  | some found => .ok found
  | none =>
    match cs with
    | '-' :: rest => readNumber true rest
    | _ => readNumber false cs

mutual

/-- The value at the front of a list that stands inside `depth` lists and maps, and the rest. There
is room for `limit` of them. The argument after the limit bounds the recursion. -/
def readValue (limit : Nat) : Nat → Nat → List Char → Except Failure (Value × List Char)
  | 0, _, _ => .error .malformed
  | fuel + 1, depth, cs =>
    match cs with
    | '\x22' :: rest => readString rest
    | '[' :: rest =>
      if limit ≤ depth then .error (.beyond (.nestedTooDeeply false))
      else
        match skipSpace rest with
        | ']' :: rest => .ok (.list [], rest)
        | rest => do
          let (items, rest) ← readItems limit fuel (depth + 1) rest
          return (.list items, rest)
    | '\x7b' :: rest =>
      if limit ≤ depth then .error (.beyond (.nestedTooDeeply true))
      else
        match skipSpace rest with
        | '\x7d' :: rest => .ok (.dict [], rest)
        | rest => do
          let (pairs, rest) ← readMembers limit fuel (depth + 1) rest
          return (Value.dictOf pairs, rest)
    | _ => readScalar cs

/-- The items of a list up to its closing bracket, and the rest. -/
def readItems (limit : Nat) : Nat → Nat → List Char → Except Failure (List Value × List Char)
  | 0, _, _ => .error .malformed
  | fuel + 1, depth, cs => do
    let (item, rest) ← readValue limit fuel depth cs
    match skipSpace rest with
    | ']' :: rest => return ([item], rest)
    | ',' :: rest => do
      let (items, rest) ← readItems limit fuel depth (skipSpace rest)
      return (item :: items, rest)
    | _ => .error .malformed

/-- The members of a map up to its closing brace, and the rest. -/
def readMembers (limit : Nat) : Nat → Nat → List Char →
    Except Failure (List (Value × Value) × List Char)
  | 0, _, _ => .error .malformed
  | fuel + 1, depth, cs =>
    match cs with
    | '\x22' :: rest => do
      let (key, rest) ← readString rest
      match skipSpace rest with
      | ':' :: rest => do
        let (value, rest) ← readValue limit fuel depth (skipSpace rest)
        match skipSpace rest with
        | '\x7d' :: rest => return ([(key, value)], rest)
        | ',' :: rest => do
          let (pairs, rest) ← readMembers limit fuel depth (skipSpace rest)
          return ((key, value) :: pairs, rest)
        | _ => .error .malformed
      | _ => .error .malformed
    | _ => .error .malformed

end

/-- Read a whole text as one value, with room for `limit` lists and maps inside each other. -/
def read (limit : Nat) (s : String) : Except Failure Value := do
  let cs := s.toList
  if cs.head? = some '\uFEFF' then throw .malformed
  let (value, rest) ← readValue limit (2 * cs.length + 2) 0 (skipSpace cs)
  if (skipSpace rest).isEmpty then return value else throw .malformed

end Json

end CommandRouter
