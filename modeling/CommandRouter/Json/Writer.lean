import CommandRouter.Table
import CommandRouter.Value.Strings

/-!
# Writing JSON text

Settings maps are stored as JSON text in ASCII: commas and colons are followed by a space, and
every character outside ASCII is written as one or two `\u` escapes of sixteen bits. A string that
is no text is written in the same way, each half of a pair by its own escape.

## Main definitions

* `Json.writeText` is the JSON string for a text.
* `Json.write` is the JSON text of a value.
* `Json.writeTable` is the JSON object for a table whose keys are strings.
-/

namespace CommandRouter

namespace Json

/-- A sixteen-bit unit as an escape. -/
def unitEscape (unit : Nat) : List Char :=
  '\x5C' :: 'u' :: hexDigits 4 unit

/-- How a character is written inside a JSON string. -/
def escapeChar (c : Char) : List Char :=
  if c = '\x22' ∨ c = '\x5C' then ['\x5C', c]
  else if c = '\n' then ['\x5C', 'n']
  else if c = '\r' then ['\x5C', 'r']
  else if c = '\t' then ['\x5C', 't']
  else if c = '\x08' then ['\x5C', 'b']
  else if c = '\x0C' then ['\x5C', 'f']
  else if ' ' ≤ c ∧ c ≤ '~' then [c]
  else if c.toNat < 0x10000 then unitEscape c.toNat
  else
    let offset := c.toNat - 0x10000
    unitEscape (0xD800 + offset / 0x400) ++ unitEscape (0xDC00 + offset % 0x400)

/-- The JSON string for a character list, with its quotation marks. -/
def stringChars (cs : List Char) : List Char :=
  '\x22' :: cs.flatMap escapeChar ++ ['\x22']

/-- The JSON string for a text. -/
def writeText (s : String) : String :=
  String.ofList (stringChars s.toList)

/-- The JSON string for a string of code points. -/
def writeCodes (codes : List Nat) : String :=
  String.ofList ('\x22' :: codes.flatMap (codeChars escapeChar) ++ ['\x22'])

/-- The JSON text of a double-precision number. -/
def writeFloat : Binary64 → String
  | .nan _ => "NaN"
  | .infinite negative => if negative then "-Infinity" else "Infinity"
  | x => x.text

/-- The text of a map key. -/
def keyText : Value → String
  | .text s => s
  | .null => "null"
  | .bool b => if b then "true" else "false"
  | .float x => writeFloat x
  | key => key.inner

/-- The JSON string for a map key. -/
def writeKey : Value → String
  | .ragged codes => writeCodes codes
  | key => writeText (keyText key)

mutual

/-- The JSON text of a value. -/
def write : Value → String
  | .null => "null"
  | .bool b => if b then "true" else "false"
  | .int n => toString n
  | .float x => writeFloat x
  | .text s => writeText s
  | .ragged codes => writeCodes codes
  | .list items => Value.bracketed "[" (writeItems items) "]"
  | .dict pairs => Value.bracketed "\x7b" (writePairs pairs) "\x7d"

/-- The JSON texts of the items of a list. -/
def writeItems : List Value → List String
  | [] => []
  | item :: items => write item :: writeItems items

/-- The JSON texts of the members of a map. -/
def writePairs : List (Value × Value) → List String
  | [] => []
  | (key, value) :: pairs =>
    (writeKey key ++ ": " ++ write value) :: writePairs pairs

end

/-- The JSON object for a table whose keys are strings. -/
def writeTable (table : Table Label Value) : String :=
  Value.bracketed "\x7b"
    (table.toList.map fun entry => writeKey entry.1.toValue ++ ": " ++ write entry.2) "\x7d"

end Json

end CommandRouter
