import CommandRouter.Proofs.Results
import CommandRouter.Value.Strings

/-!
# Strings stay strings

A string is a text or a list of code points that is no text. The operations that resolution applies
to prefixes, triggers and aliases end with a result on strings, and their results are strings again.
So it is enough to know that what comes in is a string: nothing after that can be a fault.

The converse matters as well. A sum that can be lower-cased is the sum of two strings, because
numbers and lists add up to numbers and lists. So a full trigger that has been compared once tells
of what kind its two parts are.

## Main definitions

* `Value.IsString` says that a value is a string.

## Main results

* `Value.yields_add`, `Value.yields_lowered` and `Value.yields_wordsOf` are the operations on
  strings.
* `Value.isString_of_add_lowered` is the converse for sums that are lower-cased.
* `Value.eq_of_key?_eq` tells strings apart by their keys.
-/

namespace CommandRouter

namespace Value

/-- Whether a value is a string. -/
def IsString (value : Value) : Prop := value.codes?.isSome

instance (value : Value) : Decidable value.IsString := inferInstanceAs (Decidable (_ = true))

@[simp] theorem isString_text (s : String) : (text s).IsString := rfl

@[simp] theorem isString_ragged (codes : List Nat) : (ragged codes).IsString := rfl

theorem isString_iff {value : Value} :
    value.IsString ↔ (∃ s, value = text s) ∨ ∃ codes, value = ragged codes := by
  cases value <;> simp [IsString, codes?]

theorem isString_ofCodes (codes : List Nat) : (ofCodes codes).IsString := by
  rw [ofCodes]
  split <;> simp

theorem isString_toValue (label : Label) : label.toValue.IsString := by
  cases label <;> rfl

theorem isString_of_shown {value string : Value} (h : value.shown = .ok string) :
    string.IsString := by
  obtain ⟨label, -, rfl⟩ := map_eq_ok_iff.1 h
  exact isString_toValue label

/-! ### Sums -/

/-- Two strings have a sum, which is a string. -/
theorem yields_add {a b : Value} (ha : a.IsString) (hb : b.IsString) :
    Yields (a.add b) IsString := by
  rcases isString_iff.1 ha with ⟨s, rfl⟩ | ⟨codes, rfl⟩ <;>
    rcases isString_iff.1 hb with ⟨t, rfl⟩ | ⟨codes', rfl⟩ <;>
    exact .ok rfl

/-- To a string only a string can be added. -/
theorem isString_of_add {a b c : Value} (ha : a.IsString) (sum : a.add b = .ok c) :
    b.IsString := by
  rcases isString_iff.1 ha with ⟨s, rfl⟩ | ⟨codes, rfl⟩ <;> cases b <;>
    simp_all [add, number?, codes?]

/-! ### Lower case -/

theorem yields_lowered {a : Value} (ha : a.IsString) : Yields a.lowered IsString := by
  rcases isString_iff.1 ha with ⟨s, rfl⟩ | ⟨codes, rfl⟩ <;> exact .ok rfl

/-- Only strings are lower-cased. -/
theorem isString_of_lowered {a b : Value} (h : a.lowered = .ok b) : a.IsString ∧ b.IsString := by
  cases a <;> simp_all [lowered] <;> simp [← h]

/-- Numbers do not add up to a string. -/
theorem not_isString_ofNumber {r : Except Fault Number} {c : Value}
    (h : r.map ofNumber = .ok c) : ¬c.IsString := by
  cases r with
  | error fault => cases h
  | ok number => cases number <;> cases h <;> simp [IsString, codes?, ofNumber]

/-- A sum that is a string is one of strings. -/
theorem isString_of_add_isString {a b c : Value} (sum : a.add b = .ok c) (hc : c.IsString) :
    a.IsString ∧ b.IsString := by
  unfold add at sum
  split at sum
  · simp
  · cases sum
    cases hc
  · cases sum
  · split at sum
    · exact absurd hc (not_isString_ofNumber sum)
    · split at sum
      · rename_i codes codes' ha hb
        exact ⟨by simp [IsString, ha], by simp [IsString, hb]⟩
      · cases sum
      · cases sum

/-- A sum that can be lower-cased is the sum of two strings. -/
theorem isString_of_add_lowered {a b c d : Value} (sum : a.add b = .ok c)
    (low : c.lowered = .ok d) : a.IsString ∧ b.IsString :=
  isString_of_add_isString sum (isString_of_lowered low).1

/-! ### Words -/

/-- The words of a string are strings. -/
theorem yields_wordsOf {a : Value} (ha : a.IsString) :
    Yields a.wordsOf fun ws => ∀ w ∈ ws, w.IsString := by
  rcases isString_iff.1 ha with ⟨s, rfl⟩ | ⟨codes, rfl⟩
  · refine ⟨_, wordsOf_text s, ?_⟩
    intro w hw
    obtain ⟨word, -, rfl⟩ := List.mem_map.1 hw
    exact isString_text word
  · refine ⟨_, rfl, ?_⟩
    intro w hw
    obtain ⟨word, -, rfl⟩ := List.mem_map.1 hw
    exact isString_ofCodes word

/-! ### Keys -/

/-- Only strings name the keys of strings. -/
theorem isString_of_key?_eq {a b : Value} (ha : a.IsString) (h : a.key? = b.key?) :
    b.IsString := by
  cases b with
  | text t => exact isString_text t
  | ragged codes => exact isString_ragged codes
  | float x =>
    obtain ⟨p, hp⟩ : ∃ p, a.key? = Option.map .number p := ⟨_, h⟩
    rcases isString_iff.1 ha with ⟨s, rfl⟩ | ⟨codes, rfl⟩ <;> simp [key?, eq_comm] at hp
  | _ => rcases isString_iff.1 ha with ⟨s, rfl⟩ | ⟨codes, rfl⟩ <;> cases h

/-- A string names a key, by which it can be told from every other value. -/
theorem eq_of_key?_eq {a b : Value} (ha : a.IsString) (h : a.key? = b.key?) : a = b := by
  have hb := isString_of_key?_eq ha h
  rcases isString_iff.1 ha with ⟨s, rfl⟩ | ⟨codes, rfl⟩ <;>
    rcases isString_iff.1 hb with ⟨t, rfl⟩ | ⟨codes', rfl⟩ <;>
    simp_all [key?]

theorem sameKey_self {a : Value} (ha : a.IsString) : a.sameKey a = true := by
  rcases isString_iff.1 ha with ⟨s, rfl⟩ | ⟨codes, rfl⟩ <;> simp [sameKey, key?]

end Value

end CommandRouter
