/-!
# Surrogates

Sixteen-bit units between `0xD800` and `0xDFFF` are the halves of pairs, and a pair of them stands
for one character. A half on its own is a code point but no character, so a string of code points
is a text only if no half is left in it after the pairs have been joined.

## Main definitions

* `isSurrogate` decides whether a code point is a half.
* `joinPairs` joins the pairs in a list of units.
* `textOfCodes?` is the text that a list of code points spells, if it spells one.
-/

namespace CommandRouter

/-- Whether a code point is the first half of a pair. -/
def isHighSurrogate (code : Nat) : Bool :=
  decide (0xD800 ≤ code) && decide (code ≤ 0xDBFF)

/-- Whether a code point is the second half of a pair. -/
def isLowSurrogate (code : Nat) : Bool :=
  decide (0xDC00 ≤ code) && decide (code ≤ 0xDFFF)

/-- Whether a code point is a half of a pair. -/
def isSurrogate (code : Nat) : Bool :=
  isHighSurrogate code || isLowSurrogate code

/-- The code point that two halves stand for. -/
def pairCode (high low : Nat) : Nat :=
  0x10000 + (high - 0xD800) * 0x400 + (low - 0xDC00)

/-- The code points of a list of units, where a first half followed by a second one is joined. -/
def joinPairs : List Nat → List Nat
  | [] => []
  | [code] => [code]
  | high :: low :: codes =>
    if isHighSurrogate high && isLowSurrogate low then pairCode high low :: joinPairs codes
    else high :: joinPairs (low :: codes)

/-- The text that code points spell, unless one of them is a half. -/
def textOfCodes? (codes : List Nat) : Option String :=
  if codes.any isSurrogate then none else some (String.ofList (codes.map Char.ofNat))

example : (textOfCodes? (joinPairs [0x61, 0xD83D, 0xDE00])) = some "a😀" := by decide +kernel

example : textOfCodes? (joinPairs [0xD83D, 0x41]) = none := by decide +kernel

/-- No character is a half. -/
theorem isSurrogate_toNat (c : Char) : isSurrogate c.toNat = false := by
  have valid : c.toNat.isValidChar := c.valid
  simp only [Nat.isValidChar] at valid
  simp only [isSurrogate, isHighSurrogate, isLowSurrogate, Bool.or_eq_false_iff,
    Bool.and_eq_false_iff, decide_eq_false_iff_not]
  omega

end CommandRouter
