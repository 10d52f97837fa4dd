import CommandRouter.Fault
import CommandRouter.Number.Decimal

/-!
# Numbers of either kind

Clock readings and lifetimes are integers of any size or double-precision numbers. A result is an
integer as long as both operands are integers. Otherwise an integer operand is rounded, and one that
lies beyond the range of the format is a fault, whatever the other operand is. Comparison rounds
nothing, so it is exact and never fails.

## Main definitions

* `Number` is an integer or a double-precision number.
* `Number.lt` compares two numbers of any kinds exactly; not-a-number compares to nothing.
* `Number.toBinary64` rounds a number to double precision.
* `Number.add`, `Number.sub` and `Number.mul` round an integer operand only if the other one is not
  an integer.
-/

namespace CommandRouter

/-- An integer or a double-precision number. -/
inductive Number where
  /-- An integer. -/
  | int (n : Int)
  /-- A double-precision number. -/
  | float (x : Binary64)
  deriving Repr, DecidableEq

namespace Number

/-- The place of a number on the line; there is none for not-a-number. -/
def point? : Number → Option LinePoint
  | int n => some (.number n)
  | float x => x.point?

/-- Whether one number is less than another; false if either is not a number. -/
def lt (a b : Number) : Bool :=
  match a.point?, b.point? with
  | some p, some q => p.lt q
  | _, _ => false

/-- Whether one number is at most another; false if either is not a number. -/
def le (a b : Number) : Bool :=
  match a.point?, b.point? with
  | some p, some q => !q.lt p
  | _, _ => false

/-- The number as a double-precision number. -/
def toBinary64 : Number → Except Fault Binary64
  | int n =>
    match Binary64.ofInt n with
    | .infinite _ => .error .tooLargeToRound
    | x => .ok x
  | float x => .ok x

/-- The sum, exact for two integers and rounded otherwise. -/
def add : Number → Number → Except Fault Number
  | int m, int n => .ok (int (m + n))
  | a, b => do return float ((← a.toBinary64).add (← b.toBinary64))

/-- The difference, exact for two integers and rounded otherwise. -/
def sub : Number → Number → Except Fault Number
  | int m, int n => .ok (int (m - n))
  | a, b => do return float ((← a.toBinary64).sub (← b.toBinary64))

/-- The product, exact for two integers and rounded otherwise. -/
def mul : Number → Number → Except Fault Number
  | int m, int n => .ok (int (m * n))
  | a, b => do return float ((← a.toBinary64).mul (← b.toBinary64))

@[simp] theorem add_int (m n : Int) : (int m).add (int n) = .ok (int (m + n)) := rfl

@[simp] theorem sub_int (m n : Int) : (int m).sub (int n) = .ok (int (m - n)) := rfl

/-- The text of a number. -/
def text : Number → String
  | int n => toString n
  | float x => x.text

end Number

end CommandRouter
