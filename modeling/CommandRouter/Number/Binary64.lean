/-!
# Double-precision numbers

Clock readings and lifetimes may be fractional. They are kept as exact dyadic values with the
range and precision of the 64-bit binary format, so that rounding, comparison and text are
functions about which facts can be proved.

## Main definitions

* `Binary64` is a number of the format: not-a-number, an infinity, or `± mantissa * 2 ^ exponent`.
  A not-a-number has a payload by which it may be told from others.
* `Binary64.ofRatio` rounds a fraction to the nearest number, ties to the even mantissa.
* `Binary64.point?` is the exact place of a number on the extended line, a `LinePoint`.
* `Binary64.add`, `Binary64.sub` and `Binary64.mul` round the exact result.
-/

namespace CommandRouter

/-- A number of the 64-bit binary format. Finite numbers made by `Binary64.ofRatio` have a
mantissa below `2 ^ 53` and the least exponent that allows, at least `-1074`. -/
inductive Binary64 where
  /-- Not a number. -/
  | nan (payload : Nat)
  /-- An infinity. -/
  | infinite (negative : Bool)
  /-- The number `± mantissa * 2 ^ exponent`. -/
  | finite (negative : Bool) (mantissa : Nat) (exponent : Int)
  deriving Repr, DecidableEq

/-- A place on the extended number line. -/
inductive LinePoint where
  /-- Below every number. -/
  | below
  /-- The place of a number. -/
  | number (q : Rat)
  /-- Above every number. -/
  | above
  deriving DecidableEq

namespace LinePoint

/-- Whether one place lies strictly before another. -/
def lt : LinePoint → LinePoint → Bool
  | below, below => false
  | below, _ => true
  | _, below => false
  | above, _ => false
  | number _, above => true
  | number p, number q => decide (p < q)

end LinePoint

namespace Binary64

/-- A zero of either sign. -/
def zero (negative : Bool) : Binary64 :=
  .finite negative 0 (-1074)

/-! ### Rounding -/

/-- The fraction `num / den` divided by `2 ^ exponent`, as a fraction. -/
def scaleRatio (num den : Nat) (exponent : Int) : Nat × Nat :=
  (num * Nat.pow 2 (-exponent).toNat, den * Nat.pow 2 exponent.toNat)

/-- The integer nearest to `num / den`, the even one of two equally near. -/
def nearest (num den : Nat) : Nat :=
  let quotient := num / den
  let twice := 2 * (num % den)
  if twice < den then quotient
  else if den < twice then quotient + 1
  else quotient + quotient % 2

/-- The least exponent for which the mantissa of `num / den` stays below `2 ^ 53`. -/
def exponentFor (num den : Nat) : Int :=
  let guess := max (-1074) ((num.log2 : Int) - den.log2 - 53)
  let scaled := scaleRatio num den guess
  if Nat.pow 2 53 ≤ scaled.1 / scaled.2 then guess + 1 else guess

/-- The finite number or infinity for a mantissa of at most `2 ^ 53`. -/
def ofMantissa (negative : Bool) (mantissa : Nat) (exponent : Int) : Binary64 :=
  let carried := mantissa = Nat.pow 2 53
  let exponent := if carried then exponent + 1 else exponent
  if 971 < exponent then .infinite negative
  else .finite negative (if carried then Nat.pow 2 52 else mantissa) exponent

/-- The number nearest to the fraction `± num / den`. -/
def ofRatio (negative : Bool) (num den : Nat) : Binary64 :=
  if num = 0 then zero negative
  else
    let exponent := exponentFor num den
    let scaled := scaleRatio num den exponent
    ofMantissa negative (nearest scaled.1 scaled.2) exponent

/-- The number nearest to a rational number. -/
def ofRat (q : Rat) : Binary64 :=
  ofRatio (decide (q.num < 0)) q.num.natAbs q.den

/-- The number nearest to an integer. -/
def ofInt (n : Int) : Binary64 :=
  ofRatio (decide (n < 0)) n.natAbs 1

/-- The number nearest to `± digits * 10 ^ exponent`. Beyond the range of the format the answer
is an infinity or a zero, without computing the power. -/
def ofDecimal (negative : Bool) (digits : Nat) (exponent : Int) : Binary64 :=
  if digits = 0 then zero negative
  else
    let magnitude := exponent + (toString digits).length
    if 310 < magnitude then .infinite negative
    else if magnitude < -330 then zero negative
    else ofRatio negative (digits * Nat.pow 10 exponent.toNat) (Nat.pow 10 (-exponent).toNat)

/-! ### Comparison -/

/-- The exact value of `± mantissa * 2 ^ exponent`. -/
def exact (negative : Bool) (mantissa : Nat) (exponent : Int) : Rat :=
  mkRat ((if negative then -(mantissa : Int) else mantissa) * Nat.pow 2 exponent.toNat)
    (Nat.pow 2 (-exponent).toNat)

/-- The place of a number on the line; there is none for not-a-number. -/
def point? : Binary64 → Option LinePoint
  | nan _ => none
  | infinite negative => some (if negative then .below else .above)
  | finite negative mantissa exponent => some (.number (exact negative mantissa exponent))

/-- Whether this is not a number. -/
def isNaN : Binary64 → Bool
  | nan _ => true
  | _ => false

/-- Whether the number is a zero of either sign. -/
def isZero : Binary64 → Bool
  | finite _ mantissa _ => mantissa == 0
  | _ => false

/-! ### Arithmetic -/

/-- The number with the other sign. -/
def neg : Binary64 → Binary64
  | nan payload => nan payload
  | infinite negative => .infinite !negative
  | finite negative mantissa exponent => .finite (!negative) mantissa exponent

/-- The rounded sum. A sum that is not a number has no payload of its own. -/
def add : Binary64 → Binary64 → Binary64
  | nan _, _ => nan 0
  | _, nan _ => nan 0
  | infinite s, infinite t => if s = t then .infinite s else nan 0
  | infinite s, finite _ _ _ => .infinite s
  | finite _ _ _, infinite t => .infinite t
  | finite s m d, finite t n e =>
    let sum := exact s m d + exact t n e
    if sum = 0 then zero (s && t) else ofRat sum

/-- The rounded difference. -/
def sub (x y : Binary64) : Binary64 :=
  add x (neg y)

/-- The rounded product. -/
def mul : Binary64 → Binary64 → Binary64
  | nan _, _ => nan 0
  | _, nan _ => nan 0
  | infinite s, infinite t => .infinite (s != t)
  | infinite s, finite t n _ => if n = 0 then nan 0 else .infinite (s != t)
  | finite s m _, infinite t => if m = 0 then nan 0 else .infinite (s != t)
  | finite s m d, finite t n e =>
    let product := exact s m d * exact t n e
    if product = 0 then zero (s != t) else ofRat product

/-- The number without its fraction, when it is finite. -/
def truncate? : Binary64 → Option Int
  | finite negative mantissa exponent =>
    let q := exact negative mantissa exponent
    some (q.num.tdiv q.den)
  | _ => none

end Binary64

end CommandRouter
