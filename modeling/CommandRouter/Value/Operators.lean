import CommandRouter.Fault
import CommandRouter.Number.Reading
import CommandRouter.Value

/-!
# Operators on values

Values are not typed, so an operator may meet operands to which it does not apply. That is a fault
which names the kinds of the operands; it arises when the operator is used and not when the value
comes in. So a setting of the wrong kind does no harm as long as nobody needs it.

Truth values count as the numbers zero and one. Strings compare by their code points, and lists by
the first items in which they differ. Not-a-number equals nothing, but as an item of a list it does
not differ from itself: a list does not differ from a list that was put together from it.

## Main definitions

* `Value.add` and `Value.sub` add and subtract.
* `Comparison` is a way to compare, and `Value.compare` compares two values in that way.
* `Value.same` decides whether two values are equal, and `Value.sameItem` whether two items of
  lists do not differ.
* `Value.items` is what going through a value yields.
* `Value.toBinary64` is the double-precision number that a value stands for.
* `Value.textFor` is the text that a value must be to have a feature of texts.

## Main results

* `Value.add_int`, `Value.sub_int` and `Value.compare_int` are the operators on integers.
* `Value.add_text` joins texts, and `Value.compare_text` orders them.
-/

namespace CommandRouter

/-- A way to compare two values. -/
inductive Comparison where
  /-- The left one is less. -/
  | less
  /-- The left one is not greater. -/
  | atMost
  /-- The left one is greater. -/
  | greater
  deriving Repr, DecidableEq

namespace Comparison

/-- The sign of a comparison. -/
def symbol : Comparison → String
  | less => "<"
  | atMost => "<="
  | greater => ">"

/-- Whether a comparison holds between numbers. -/
def numbers : Comparison → Number → Number → Bool
  | less, a, b => a.lt b
  | atMost, a, b => a.le b
  | greater, a, b => b.lt a

/-- Whether a comparison holds between strings of code points. -/
def codes : Comparison → List Nat → List Nat → Bool
  | less, a, b => decide (a < b)
  | atMost, a, b => !decide (b < a)
  | greater, a, b => decide (b < a)

/-- Whether a comparison holds between lengths. -/
def lengths : Comparison → Nat → Nat → Bool
  | less, a, b => decide (a < b)
  | atMost, a, b => decide (a ≤ b)
  | greater, a, b => decide (b < a)

end Comparison

namespace Value

/-! ### Sums and differences -/

/-- The sum of two numbers, or the second string or list put at the end of the first. -/
def add (a b : Value) : Except Fault Value :=
  match a, b with
  | text s, text t => .ok (text (s ++ t))
  | list xs, list ys => .ok (list (xs ++ ys))
  | list _, b => .error (.cannotAppend (kindName (list [])) b.kindName)
  | a, b =>
    match a.number?, b.number? with
    | some m, some n => (m.add n).map ofNumber
    | _, _ =>
      match a.codes?, b.codes? with
      | some cs, some ds => .ok (ragged (cs ++ ds))
      | some _, none => .error (.cannotAppend a.kindName b.kindName)
      | none, _ => .error (.unsupportedOperands "+" a.kindName b.kindName)

/-- The difference of two numbers. -/
def sub (a b : Value) : Except Fault Number :=
  match a.number?, b.number? with
  | some m, some n => m.sub n
  | _, _ => .error (.unsupportedOperands "-" a.kindName b.kindName)

@[simp] theorem add_int (m n : Int) : (int m).add (int n) = .ok (int (m + n)) := rfl

@[simp] theorem sub_int (m n : Int) : (int m).sub (int n) = .ok (.int (m - n)) := rfl

@[simp] theorem add_text (s t : String) : (text s).add (text t) = .ok (text (s ++ t)) := rfl

/-! ### Equality -/

mutual

/-- Whether two values are equal. Numbers of any kinds are equal if they have the same place, and
not-a-number is equal to nothing. -/
def same : Value → Value → Bool
  | list xs, list ys => sameItems xs ys
  | dict ps, dict qs => ps.length == qs.length && samePairs ps qs
  | a, b => a.sameKey b

/-- Whether two lists have items that do not differ. -/
def sameItems : List Value → List Value → Bool
  | [], [] => true
  | x :: xs, y :: ys => (isOneNaN x y || same x y) && sameItems xs ys
  | _, _ => false

/-- Whether a map has every given pair. -/
def samePairs : List (Value × Value) → List (Value × Value) → Bool
  | [], _ => true
  | (key, value) :: ps, qs =>
    qs.any (fun q => (isOneNaN key q.1 || key.sameKey q.1) &&
      (isOneNaN value q.2 || same value q.2)) && samePairs ps qs

end

/-- Whether two items of lists do not differ. -/
def sameItem (x y : Value) : Bool := isOneNaN x y || same x y

/-! ### Comparison -/

mutual

/-- Compare two values, if values of their kinds can be compared. -/
def compare (c : Comparison) : Value → Value → Except Fault Bool
  | list xs, list ys => compareItems c xs ys
  | a, b =>
    match a.number?, b.number? with
    | some m, some n => .ok (c.numbers m n)
    | _, _ =>
      match a.codes?, b.codes? with
      | some cs, some ds => .ok (c.codes cs ds)
      | _, _ => .error (.notComparable c.symbol a.kindName b.kindName)

/-- Compare two lists by the first items that differ, or by their lengths. -/
def compareItems (c : Comparison) : List Value → List Value → Except Fault Bool
  | x :: xs, y :: ys => if sameItem x y then compareItems c xs ys else compare c x y
  | xs, ys => .ok (c.lengths xs.length ys.length)

end

@[simp] theorem compare_int (c : Comparison) (m n : Int) :
    compare c (int m) (int n) = .ok (c.numbers (.int m) (.int n)) := rfl

@[simp] theorem compare_text (c : Comparison) (s t : String) :
    compare c (text s) (text t) =
      .ok (c.codes (s.toList.map Char.toNat) (t.toList.map Char.toNat)) := rfl

/-! ### Items and numbers -/

/-- What going through a value yields: the items of a list, the characters of a string, or the
keys of a map. -/
def items : Value → Except Fault (List Value)
  | list items => .ok items
  | text s => .ok (s.toList.map fun c => text (String.singleton c))
  | ragged codes => .ok (codes.map fun code => ragged [code])
  | dict pairs => .ok (pairs.map Prod.fst)
  | value => .error (.noItems value.kindName)

/-- The number in a text. -/
def readNumber (text : String) : Except Fault Binary64 :=
  match readFloat text with
  | .ok x => .ok x
  | .error _ => .error (.notNumber text)

/-- The double-precision number that a value stands for: a number or the text of one. -/
def toBinary64 (value : Value) : Except Fault Binary64 :=
  match value with
  | text s => readNumber s
  | value =>
    match value.number? with
    | some n => n.toBinary64
    | none => .error (.notNumeric value.kindName)

/-- The text that a value is. Another value lacks the feature of texts for which it is needed. -/
def textFor (feature : String) : Value → Except Fault String
  | text s => .ok s
  | value => .error (.lacks value.kindName feature)

@[simp] theorem textFor_text (feature s : String) : textFor feature (text s) = .ok s := rfl

end Value

end CommandRouter
