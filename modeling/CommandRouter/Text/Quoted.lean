import CommandRouter.Text.Hex
import CommandRouter.Text.Printable
import CommandRouter.Text.Surrogate

/-!
# Quoted text

Messages show a text between quotation marks, with every character that is not printable
escaped, so that the reader sees where the text begins and ends.

## Main definitions

* `quoted` is the quoted form of a text: in single marks unless it holds a single mark and no
  double one.
* `quotedCodes` is the quoted form of a string of code points that need not be a text.
-/

namespace CommandRouter

/-- The mark that encloses a text: double if the text holds a single mark and no double one. -/
def quotationMark (cs : List Char) : Char :=
  if cs.contains '\x27' && !cs.contains '\x22' then '\x22' else '\x27'

/-- How a character is written between two quotation marks. -/
def quotedChar (mark : Char) (c : Char) : List Char :=
  if c = mark ∨ c = '\x5C' then ['\x5C', c]
  else if c = '\n' then ['\x5C', 'n']
  else if c = '\r' then ['\x5C', 'r']
  else if c = '\t' then ['\x5C', 't']
  else if isPrintable c then [c]
  else if c.toNat < 0x100 then '\x5C' :: 'x' :: hexDigits 2 c.toNat
  else if c.toNat < 0x10000 then '\x5C' :: 'u' :: hexDigits 4 c.toNat
  else '\x5C' :: 'U' :: hexDigits 8 c.toNat

/-- The text between quotation marks, with unprintable characters escaped. -/
def quoted (s : String) : String :=
  let mark := quotationMark s.toList
  String.ofList (mark :: s.toList.flatMap (quotedChar mark) ++ [mark])

/-! ### Code points -/

/-- A character for each code point; a half of a pair, which is no character, is escaped. -/
def codeChars (escape : Char → List Char) (code : Nat) : List Char :=
  if isSurrogate code then '\x5C' :: 'u' :: hexDigits 4 code else escape (Char.ofNat code)

/-- A string of code points as a text in which the halves of pairs are escaped. -/
def escapedCodes (codes : List Nat) : String :=
  String.ofList (codes.flatMap (codeChars fun c => [c]))

/-- A string of code points between quotation marks, with unprintable characters escaped. -/
def quotedCodes (codes : List Nat) : String :=
  let mark := quotationMark (codes.flatMap (codeChars fun c => [c]))
  String.ofList (mark :: codes.flatMap (codeChars (quotedChar mark)) ++ [mark])

/-! ### Marks and escapes -/

example : quoted "it's" = "\"it's\"" := by decide +kernel

example : quoted "a\n\u200B" = "'a\\n\\u200b'" := by decide +kernel

example : quotedCodes [0x61, 0xDFFF] = "'a\\udfff'" := by decide +kernel

end CommandRouter
