import CommandRouter.Number.Binary64
import CommandRouter.Text.Blank
import CommandRouter.Text.Digit

/-!
# Reading numbers from text

A setting is given as text. Integers and double-precision numbers are read with blanks around
them, an optional sign, decimal digits of any script, and single underscores between digits.

## Main definitions

* `ReadFault` says why a text is not read.
* `readInt` reads an integer of at most `maxIntegerDigits` digits; `isTooLong` decides whether an
  integer has more.
* `readFloat` reads a double-precision number, with an optional fraction and exponent, or the
  name of an infinity or of not-a-number.
-/

namespace CommandRouter

/-- Why a text is not read. -/
inductive ReadFault where
  /-- The text does not have the required form. -/
  | malformed
  /-- The text holds an integer with too many digits, of which there are `count`. -/
  | tooManyDigits (count : Nat)
  deriving Repr, DecidableEq

/-- The number of digits an integer may have. -/
def maxIntegerDigits : Nat := 4300

/-- Whether an integer has more digits than it may have. -/
def isTooLong (n : Int) : Bool := decide (Nat.pow 10 maxIntegerDigits ≤ n.natAbs)

/-- Whether a character may surround a number: a blank that is not an information separator. -/
def isNumberBlank (c : Char) : Bool :=
  isBlank c && !(decide (0x1C ≤ c.toNat) && decide (c.toNat ≤ 0x1F))

/-- The sign at the front of a number, and the rest. -/
def splitSign : List Char → Bool × List Char
  | '-' :: cs => (true, cs)
  | '+' :: cs => (false, cs)
  | cs => (false, cs)

/-- The number that decimal digits spell, most significant first. -/
def ofDigits (digits : List Nat) : Nat :=
  digits.foldl (fun value digit => 10 * value + digit) 0

/-- How many digits of a decimal can decide how it is rounded. What lies halfway between two
neighbouring double-precision numbers has fewer significant digits. -/
def decisiveDigits : Nat := 800

/-- The number `± digits * 10 ^ exponent`, for the digits of an integer. Of the digits behind the
decisive ones it only matters whether there is one that is not zero. -/
def Binary64.ofDigits (negative : Bool) (digits : List Nat) (exponent : Int) : Binary64 :=
  let significant := digits.dropWhile (· == 0)
  let beyond := significant.drop decisiveDigits
  if beyond.isEmpty then ofDecimal negative (CommandRouter.ofDigits significant) exponent
  else
    let last := if beyond.all (· == 0) then 0 else 1
    ofDecimal negative (CommandRouter.ofDigits (significant.take decisiveDigits ++ [last]))
      (exponent + beyond.length - 1)

/-- The exponent with the given digits. One of more than twenty digits is beyond every range, and so
is the number that its first twenty digits spell. -/
def exponentOf (negative : Bool) (digits : List Nat) : Int :=
  let value : Int := ofDigits ((digits.dropWhile (· == 0)).take 20)
  if negative then -value else value

/-! ### Integers -/

/-- The digits at the front of a list and the rest. An underscore must stand between two digits,
and there must be a digit; `afterDigit` says whether a digit came just before. -/
def scanDigits (afterDigit : Bool) : List Char → Option (List Nat × List Char)
  | [] => if afterDigit then some ([], []) else none
  | c :: cs =>
    match digitValue? c with
    | some digit => (scanDigits true cs).map fun r => (digit :: r.1, r.2)
    | none =>
      if c = '_' then (if afterDigit then scanDigits false cs else none)
      else if afterDigit then some ([], c :: cs) else none

/-- Read an integer. The count of digits is checked before what follows them. -/
def readInt (text : String) : Except ReadFault Int :=
  let (negative, body) := splitSign (text.toList.dropWhile isNumberBlank)
  match scanDigits false body with
  | none => .error .malformed
  | some (digits, rest) =>
    if maxIntegerDigits < digits.length then .error (.tooManyDigits digits.length)
    else if rest.all isNumberBlank then
      .ok (if negative then -(ofDigits digits : Int) else ofDigits digits)
    else .error .malformed

/-! ### Double-precision numbers -/

/-- The ASCII form of a character of a number: decimal digits become ASCII digits. -/
def asciiDigit (c : Char) : Char :=
  match digitValue? c with
  | some digit => Char.ofNat (48 + digit)
  | none => c

/-- The characters without their underscores, if each of those stands between two digits. -/
def dropUnderscores (afterDigit : Bool) : List Char → Option (List Char)
  | [] => some []
  | '_' :: c :: cs =>
    if afterDigit && c.isDigit then (dropUnderscores true cs).map (c :: ·) else none
  | '_' :: [] => none
  | c :: cs => (dropUnderscores c.isDigit cs).map (c :: ·)

/-- The exponent at the end of a number, if the characters are one or there are none. -/
def readExponent : List Char → Option Int
  | [] => some 0
  | c :: cs =>
    if c = 'e' ∨ c = 'E' then
      let (negative, digits) := splitSign cs
      if !digits.isEmpty && digits.all Char.isDigit then
        some (exponentOf negative (digits.map fun d => d.toNat - 48))
      else none
    else none

/-- The number that ASCII characters without a sign spell. -/
def readMagnitude (negative : Bool) (cs : List Char) : Option Binary64 :=
  let name := cs.map Char.toLower
  if name = "inf".toList ∨ name = "infinity".toList then some (.infinite negative)
  else if name = "nan".toList then some (.nan 0)
  else
    let whole := cs.takeWhile Char.isDigit
    let afterWhole := cs.dropWhile Char.isDigit
    let (fraction, rest) :=
      match afterWhole with
      | '.' :: cs => (cs.takeWhile Char.isDigit, cs.dropWhile Char.isDigit)
      | _ => ([], afterWhole)
    let digits := whole ++ fraction
    if digits.isEmpty then none
    else
      (readExponent rest).map fun exponent =>
        .ofDigits negative (digits.map fun d => d.toNat - 48) (exponent - fraction.length)

/-- Read a double-precision number. -/
def readFloat (text : String) : Except ReadFault Binary64 :=
  let body := (trimChars isNumberBlank text.toList).map asciiDigit
  let number := do
    let plain ← dropUnderscores false body
    let (negative, magnitude) := splitSign plain
    readMagnitude negative magnitude
  match number with
  | some x => .ok x
  | none => .error .malformed

/-! ### Underscores stand between digits -/

example : (readInt " -1_0 ").toOption = some (-10) := by decide +kernel

example : (readInt "1__0").toOption = none := by decide +kernel

example : (readFloat "1_0.5e1").toOption = some (.ofInt 105) := by decide +kernel

end CommandRouter
