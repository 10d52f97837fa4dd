import CommandRouter.Text.LetterCase.Tables

/-!
# Lower-casing

Commands, categories and aliases are compared in lower case. Lower-casing is the full mapping of
Unicode: a dotted capital I becomes two characters, and a capital sigma becomes the final form
when it ends a word and the ordinary form otherwise. So the lower case of a text is more than that
of its characters one by one, and two texts are joined before they are lower-cased.

## Main definitions

* `lowerChar` is the lower case of a character outside any context.
* `endsCased` and `startsCased` look for a cased letter next to a sigma.
* `lower` is the lower case of a text.
* `upperAscii` is the upper case of a text, as far as it can be written in ASCII letters.
-/

namespace CommandRouter

/-- The lower-case code point of a code point, itself when no row of the table covers it. The rows
are in the order of their first code points, so the search ends where they begin too late. -/
def lowerCode (code : Nat) : Nat :=
  match (lowerRows.takeWhile fun row => row.first ≤ code).find? fun row => row.covers code with
  | some row => row.lower code
  | none => code

/-- The lower case of a character outside any context. -/
def lowerChar (c : Char) : List Char :=
  if c = '\u0130' then ['i', '\u0307'] else [Char.ofNat (lowerCode c.toNat)]

/-- Whether a character is a cased letter that a sigma does not look through. -/
def isCased (c : Char) : Bool :=
  casedLetters.contains c.toNat

/-- Whether a sigma looks through the character when it searches for a cased letter. -/
def isCaseIgnorable (c : Char) : Bool :=
  caseIgnorable.contains c.toNat

/-- Whether the first character that is not ignorable exists and is cased. -/
def startsCased (cs : List Char) : Bool :=
  match cs.dropWhile isCaseIgnorable with
  | [] => false
  | c :: _ => isCased c

/-- The lower case of a character between the characters before it, nearest first, and those
after it. -/
def lowerBetween (before : List Char) (c : Char) (after : List Char) : List Char :=
  if c = '\u03A3' then
    [if startsCased before && !startsCased after then '\u03C2' else '\u03C3']
  else lowerChar c

/-- The lower case of the characters that follow `before`, which lists the earlier characters
nearest first. -/
def lowerAfter (before : List Char) : List Char → List Char
  | [] => []
  | c :: cs => lowerBetween before c cs ++ lowerAfter (c :: before) cs

/-- The lower case of a text. -/
def lower (s : String) : String :=
  String.ofList (lowerAfter [] s.toList)

example : lower "ΑΣ ΑΣΑ İ" = "ας ασα i\u0307" := by decide +kernel

/-! ### Upper case in ASCII -/

/-- The upper case of a character when it consists of ASCII letters only, and the character
itself otherwise. -/
def upperAsciiChar (c : Char) : List Char :=
  if 'a' ≤ c ∧ c ≤ 'z' then [Char.ofNat (c.toNat - 32)]
  else if c = '\u00DF' then ['S', 'S']
  else if c = '\u0131' then ['I']
  else if c = '\u017F' then ['S']
  else if c = '\uFB00' then ['F', 'F']
  else if c = '\uFB01' then ['F', 'I']
  else if c = '\uFB02' then ['F', 'L']
  else if c = '\uFB03' then ['F', 'F', 'I']
  else if c = '\uFB04' then ['F', 'F', 'L']
  else if c = '\uFB05' then ['S', 'T']
  else if c = '\uFB06' then ['S', 'T']
  else [c]

/-- The upper case of a text, where letters whose upper case leaves ASCII are kept as they are.
It equals an ASCII text exactly when the full upper case does. -/
def upperAscii (s : String) : String :=
  String.ofList (s.toList.flatMap upperAsciiChar)

end CommandRouter
