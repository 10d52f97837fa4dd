import CommandRouter.Number.Binary64

/-!
# The shortest decimal text of a number

A double-precision number is written with the fewest decimal digits that read back as the same
number, positionally when its decimal exponent is between `-4` and `15` and with an exponent
otherwise. The digits are searched for on the decimal grids of one digit, two digits and so on:
if any point of a grid rounds to the number, one of the two neighbours of the number on that grid
does.

## Main definitions

* `DecimalStyle` says where the positional form ends, and `DecimalStyle.standard` is the style
  of all texts of this library.
* `Binary64.shortest` is the decimal with the fewest digits that rounds to the number.
* `Binary64.text` is the text of a number.
-/

namespace CommandRouter

/-- How the digits of a number are laid out. -/
structure DecimalStyle where
  /-- The greatest count of zeros behind the point in the positional form. -/
  maxLeadingZeros : Nat
  /-- The greatest count of places in front of the point in the positional form. -/
  maxWholePlaces : Nat
  /-- The least count of digits of an exponent. -/
  minExponentDigits : Nat
  deriving Repr, DecidableEq

/-- At most three zeros behind the point and sixteen places in front of it, and exponents of at
least two digits. -/
def DecimalStyle.standard : DecimalStyle := ⟨3, 16, 2⟩

namespace Binary64

/-- The number of decimal digits of a natural number. -/
def digitCount (n : Nat) : Nat :=
  (toString n).length

/-- The exponent `p` with `10 ^ (p - 1) ≤ num / den < 10 ^ p`, for a positive fraction. -/
def decimalPoint (num den : Nat) : Int :=
  if den ≤ num then digitCount (num / den) else 1 - (digitCount ((den - 1) / num) : Int)

/-- The two multiples of `10 ^ exponent` around `num / den`, the nearer one first and the even
one first of two equally near. -/
def neighbours (num den : Nat) (exponent : Int) : List Nat :=
  let num := num * Nat.pow 10 (-exponent).toNat
  let den := den * Nat.pow 10 exponent.toNat
  let low := num / den
  if nearest num den = low then [low, low + 1] else [low + 1, low]

/-- The shortest decimal `digits * 10 ^ exponent` that rounds to a positive finite number, the
nearest one among those of that length. Seventeen digits always suffice. -/
def shortest (mantissa : Nat) (exponent : Int) : Nat × Int :=
  let num := mantissa * Nat.pow 2 exponent.toNat
  let den := Nat.pow 2 (-exponent).toNat
  let point := decimalPoint num den
  let candidates := (List.range 17).flatMap fun i : Nat =>
    let unit := point - ((i : Int) + 1)
    (neighbours num den unit).map fun digits => (digits, unit)
  let readsBack := fun c : Nat × Int =>
    decide (ofDecimal false c.1 c.2 = .finite false mantissa exponent)
  (candidates.find? readsBack).getD (0, 0)

/-- The digits without zeros at their end. -/
def significant (digits : List Char) : List Char :=
  (digits.reverse.dropWhile (· == '0')).reverse

/-- A list of zeros. -/
def zeros (n : Nat) : List Char := List.replicate n '0'

/-- The text of an exponent, with its sign. -/
def exponentText (style : DecimalStyle) (exponent : Int) : String :=
  let digits := (toString exponent.natAbs).toList
  (if exponent < 0 then "-" else "+") ++
    String.ofList (zeros (style.minExponentDigits - digits.length) ++ digits)

/-- The number `0.digits * 10 ^ point` in positional form. -/
def positional (digits : List Char) (point : Int) : String :=
  if point ≤ 0 then
    "0." ++ String.ofList (zeros (-point).toNat ++ digits)
  else if digits.length ≤ point.toNat then
    String.ofList (digits ++ zeros (point.toNat - digits.length)) ++ ".0"
  else
    String.ofList (digits.take point.toNat) ++ "." ++ String.ofList (digits.drop point.toNat)

/-- The number `0.digits * 10 ^ point` with an exponent. -/
def scientific (style : DecimalStyle) (digits : List Char) (point : Int) : String :=
  let fraction := digits.drop 1
  String.ofList (digits.take 1) ++
    (if fraction.isEmpty then "" else "." ++ String.ofList fraction) ++
    "e" ++ exponentText style (point - 1)

/-- The number `0.digits * 10 ^ point`, positionally unless it is too small or too large. -/
def layout (style : DecimalStyle) (digits : List Char) (point : Int) : String :=
  if -style.maxLeadingZeros ≤ point ∧ point ≤ style.maxWholePlaces then positional digits point
  else scientific style digits point

/-- The text of a finite number without its sign. -/
def magnitudeText (mantissa : Nat) (exponent : Int) : String :=
  if mantissa = 0 then "0.0"
  else
    let decimal := shortest mantissa exponent
    let digits := (toString decimal.1).toList
    layout .standard (significant digits) (decimal.2 + digits.length)

/-- The text of a number. -/
def text : Binary64 → String
  | nan _ => "nan"
  | infinite negative => if negative then "-inf" else "inf"
  | finite negative mantissa exponent =>
    (if negative then "-" else "") ++ magnitudeText mantissa exponent

/-! ### Where the positional form ends -/

example : (ofDecimal false 1 (-4)).text = "0.0001" := by decide +kernel

example : (ofDecimal false 1 (-5)).text = "1e-05" := by decide +kernel

example : (ofDecimal true 123456789012345 1).text = "-1234567890123450.0" := by decide +kernel

example : (ofDecimal false 1 16).text = "1e+16" := by decide +kernel

/-! ### A sum that is not the decimal it looks like -/

example : ((ofDecimal false 1 (-1)).add (ofDecimal false 2 (-1))).text = "0.30000000000000004" := by
  decide +kernel

end Binary64

end CommandRouter
