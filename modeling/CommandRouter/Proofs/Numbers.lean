import CommandRouter.Proofs.Results
import CommandRouter.Value.Operators

/-!
# Numbers with a place on the line

All numbers but not-a-number have a place on the line, infinities included. Between two such numbers
exactly one of "less" and "at least" holds, which are the comparisons that decide what is served
from memory and what has expired. With not-a-number neither holds.

Sums keep their place as long as one of the operands is finite. The sum of opposite infinities would
be not-a-number, but a reading of a clock is finite.

## Main definitions

* `Number.IsPlaced` says that a number has a place on the line, and `Number.IsFinite` that it is
  between the infinities.

## Main results

* `Number.lt_eq_not_le` says that the two comparisons are opposites.
* `Number.isPlaced_of_add` is about sums.
* `Value.compare_of_number?`, `Value.exists_of_compare` and `Value.exists_of_add` go from values to
  the numbers that they are.
-/

namespace CommandRouter

/-! ### Values that are numbers -/

namespace Value

variable {a b : Value} {m n : Number}

@[simp] theorem number?_ofNumber (n : Number) : (ofNumber n).number? = some n := by
  cases n <;> rfl

/-- Two numbers can be compared. -/
theorem compare_of_number? (c : Comparison) (ha : a.number? = some m) (hb : b.number? = some n) :
    compare c a b = .ok (c.numbers m n) := by
  cases a <;> cases ha <;> cases b <;> cases hb <;> rfl

/-- What can be compared with a number is one. -/
theorem exists_of_compare {c : Comparison} {holds : Bool} (hb : b.number? = some n)
    (h : compare c a b = .ok holds) : ∃ m, a.number? = some m ∧ c.numbers m n = holds := by
  cases ha : a.number? with
  | some m =>
    rw [compare_of_number? c ha hb] at h
    exact ⟨m, rfl, Except.ok.inj h⟩
  | none =>
    have failed : compare c a b = .error (.notComparable c.symbol a.kindName b.kindName) := by
      cases b <;> cases hb <;> cases a <;> cases ha <;> rfl
    rw [failed] at h
    cases h

/-- What is added to a number is a number, and so is the sum. -/
theorem exists_of_add {sum : Value} (ha : a.number? = some m) (h : a.add b = .ok sum) :
    ∃ n s, b.number? = some n ∧ m.add n = .ok s ∧ sum = ofNumber s := by
  have added {n : Number} (hb : b.number? = some n) : a.add b = (m.add n).map ofNumber := by
    cases a <;> cases ha <;> cases b <;> cases hb <;> rfl
  cases hb : b.number? with
  | none =>
    have failed : a.add b = .error (.unsupportedOperands "+" a.kindName b.kindName) := by
      cases a <;> cases ha <;> cases b <;> cases hb <;> rfl
    rw [failed] at h
    cases h
  | some n =>
    rw [added hb] at h
    obtain ⟨s, hs, same⟩ := map_eq_ok_iff.1 h
    exact ⟨n, s, rfl, hs, same.symm⟩

end Value

/-! ### Places on the line -/

namespace Binary64

theorem exists_point?_ofMantissa (negative : Bool) (mantissa : Nat) (exponent : Int) :
    ∃ p, (ofMantissa negative mantissa exponent).point? = some p := by
  rw [ofMantissa]
  generalize (if mantissa = Nat.pow 2 53 then exponent + 1 else exponent) = carried
  by_cases overflows : 971 < carried
  · exact ⟨_, by rw [if_pos overflows]; rfl⟩
  · exact ⟨_, by rw [if_neg overflows]; rfl⟩

/-- Rounding gives a number with a place on the line. -/
theorem exists_point?_ofRatio (negative : Bool) (num den : Nat) :
    ∃ p, (ofRatio negative num den).point? = some p := by
  rw [ofRatio]
  split
  · exact ⟨_, rfl⟩
  · exact exists_point?_ofMantissa _ _ _

/-- A finite number has a sum with every number that has a place on the line. -/
theorem exists_point?_add_finite (s : Bool) (mantissa : Nat) (exponent : Int) {y : Binary64}
    {p : LinePoint} (hy : y.point? = some p) :
    ∃ q, ((finite s mantissa exponent).add y).point? = some q := by
  cases y with
  | nan payload => cases hy
  | infinite negative => exact ⟨_, rfl⟩
  | finite t n e =>
    rw [add]
    split
    · exact ⟨_, rfl⟩
    · exact exists_point?_ofRatio _ _ _

end Binary64

namespace Number

variable {m n s : Number}

/-- Whether a number has a place on the line, as all have but not-a-number. -/
def IsPlaced (n : Number) : Prop := ∃ p, n.point? = some p

/-- Whether a number lies between the infinities. -/
def IsFinite (n : Number) : Prop := ∃ q, n.point? = some (.number q)

theorem IsFinite.isPlaced (h : n.IsFinite) : n.IsPlaced := by
  obtain ⟨q, h⟩ := h
  exact ⟨_, h⟩

theorem isFinite_int (n : Int) : (int n).IsFinite := ⟨n, rfl⟩

/-- **Of two numbers on the line one is less than the other, or it is at least as great.** -/
theorem lt_eq_not_le (hm : m.IsPlaced) (hn : n.IsPlaced) : m.lt n = !n.le m := by
  obtain ⟨p, hp⟩ := hm
  obtain ⟨q, hq⟩ := hn
  rw [lt, le, hp, hq]
  exact (Bool.not_not _).symm

/-- Nothing is less than what is not on the line. -/
theorem lt_eq_false_of_point?_eq_none (h : n.point? = none) : m.lt n = false := by
  rw [lt, h]
  cases m.point? <;> rfl

/-- What is not on the line is not at most anything. -/
theorem le_eq_false_of_point?_eq_none (h : m.point? = none) : m.le n = false := by
  rw [le, h]

/-- A number is on the line exactly if it is at least zero or less than zero. -/
theorem zero_le_iff (accepted : n.lt (int 0) = false) : (int 0).le n = true ↔ n.IsPlaced := by
  constructor
  · intro h
    cases hp : n.point? with
    | some p => exact ⟨p, hp⟩
    | none =>
      rw [le, hp] at h
      cases h
  · intro h
    rwa [lt_eq_not_le h (isFinite_int 0).isPlaced, Bool.not_eq_false'] at accepted

/-- A value that is a number without a place on the line is not-a-number. -/
theorem exists_of_point?_eq_none {value : Value} (h : value.number? = some n)
    (nowhere : n.point? = none) : ∃ payload, value = .float (.nan payload) := by
  cases value with
  | float x =>
    cases h
    cases x with
    | nan payload => exact ⟨payload, rfl⟩
    | infinite negative => cases negative <;> cases nowhere
    | finite negative mantissa exponent => cases nowhere
  | int i =>
    cases h
    cases nowhere
  | bool b =>
    cases h
    cases nowhere
  | _ => cases h

/-- A finite number stays finite when it is rounded. -/
theorem exists_of_toBinary64 (hm : m.IsFinite) {x : Binary64} (h : m.toBinary64 = .ok x) :
    ∃ negative mantissa exponent, x = .finite negative mantissa exponent := by
  cases m with
  | int i =>
    obtain ⟨p, hp⟩ := Binary64.exists_point?_ofRatio (decide (i < 0)) i.natAbs 1
    change (Binary64.ofInt i).point? = some p at hp
    cases rounded : Binary64.ofInt i with
    | nan payload =>
      rw [rounded] at hp
      cases hp
    | infinite negative =>
      rw [toBinary64, rounded] at h
      cases h
    | finite negative mantissa exponent =>
      rw [toBinary64, rounded] at h
      cases h
      exact ⟨_, _, _, rfl⟩
  | float y =>
    cases h
    obtain ⟨q, hq⟩ := hm
    cases x with
    | nan payload => cases hq
    | infinite negative => cases negative <;> cases hq
    | finite negative mantissa exponent => exact ⟨_, _, _, rfl⟩

theorem exists_point?_of_toBinary64 (hn : n.IsPlaced) {y : Binary64} (h : n.toBinary64 = .ok y) :
    ∃ p, y.point? = some p := by
  cases n with
  | int i =>
    obtain ⟨negative, mantissa, exponent, rfl⟩ := exists_of_toBinary64 (isFinite_int i) h
    exact ⟨_, rfl⟩
  | float x =>
    cases h
    exact hn

/-- The sum of a finite number and one that is on the line is on the line. -/
theorem isPlaced_of_add (hm : m.IsFinite) (hn : n.IsPlaced) (h : m.add n = .ok s) :
    s.IsPlaced := by
  have rounded (h : (do return float ((← m.toBinary64).add (← n.toBinary64))) = Except.ok s) :
      s.IsPlaced := by
    obtain ⟨x, hx, h⟩ := bind_eq_ok_iff.1 h
    obtain ⟨y, hy, h⟩ := bind_eq_ok_iff.1 h
    cases h
    obtain ⟨negative, mantissa, exponent, rfl⟩ := exists_of_toBinary64 hm hx
    obtain ⟨p, hp⟩ := exists_point?_of_toBinary64 hn hy
    exact Binary64.exists_point?_add_finite negative mantissa exponent hp
  cases m with
  | float x => exact rounded h
  | int i =>
    cases n with
    | float y => exact rounded h
    | int j =>
      cases h
      exact (isFinite_int (i + j)).isPlaced

end Number

end CommandRouter
