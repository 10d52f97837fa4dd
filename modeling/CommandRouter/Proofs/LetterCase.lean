import CommandRouter.Text.Blank
import CommandRouter.Text.LetterCase

/-!
# What lower-casing keeps

The lower case of a text is its own lower case. A character that comes out of lower-casing stays as
it is wherever it stands, so no context has to be compared with the context it came from. For that
no lower case in the table may have another lower case, and none may be one of the two characters
that are treated apart, the capital sigma and the dotted capital I.

Lower-casing makes no blanks and takes none away. So a text falls into the same words before and
after it, and a spelling of a word is a word.

## Rows instead of code points

The table has some fourteen hundred letters in less than two hundred rows. The lower cases of a row
are a run of the same stride, so everything that has to be known of the letters is a comparison of
runs: either they are apart, or they are of stride two and interleave.

## Main definitions

* `CaseRow.lowerSpan` is the interval of the lower cases of a row, and `CaseRow.avoids` decides
  whether another row covers none of them.
* `IsSettled` says that a character is its own lower case in every context.

## Main results

* `exists_of_mem_lowerAfter` says that whatever comes out of lower-casing is settled.
* `lower_lower` is the idempotence of lower-casing.
* `forall_mem_lower_not_isBlank_iff` says that blanks are neither made nor removed.
-/

namespace CommandRouter

/-! ### Intervals -/

namespace CodeRange

/-- Whether two intervals have no code point in common. -/
def isApartFrom (a b : CodeRange) : Bool := Nat.blt a.last b.first || Nat.blt b.last a.first

theorem contains_iff {range : CodeRange} {code : Nat} :
    range.contains code = true ↔ range.first ≤ code ∧ code ≤ range.last := by
  simp [contains]

theorem not_contains_of_isApartFrom {a b : CodeRange} {code : Nat} (h : a.isApartFrom b = true)
    (ha : a.contains code = true) : b.contains code = false := by
  rw [contains_iff] at ha
  simp only [isApartFrom, Bool.or_eq_true, Nat.blt_eq] at h
  simp only [contains, Bool.and_eq_false_iff, decide_eq_false_iff_not]
  omega

/-- An interval that is apart from those of a set has no code point in the set. -/
theorem not_contains_of_forall_isApartFrom {range : CodeRange} {set : CodeSet} {code : Nat}
    (h : set.all range.isApartFrom = true) (hrange : range.contains code = true) :
    set.contains code = false := by
  rw [List.all_eq_true] at h
  simp only [CodeSet.contains, List.any_eq_false, Bool.not_eq_true]
  exact fun other hother => not_contains_of_isApartFrom (h other hother) hrange

end CodeRange

/-! ### Rows of the table -/

namespace CaseRow

variable {row other : CaseRow} {code : Nat}

/-- The interval of the code points of a row. -/
def span (row : CaseRow) : CodeRange := ⟨row.first, row.last⟩

/-- The interval of the lower cases of a row. -/
def lowerSpan (row : CaseRow) : CodeRange := ⟨row.lower row.first, row.lower row.last⟩

/-- Whether another row covers no lower case of a row, because the two are apart or interleave. -/
def avoids (row other : CaseRow) : Bool :=
  row.lowerSpan.isApartFrom other.span ||
    (other.stride == 2 && (row.stride == 2 || row.first == row.last) &&
      (row.lower row.first + other.first) % 2 == 1)

/-- Whether the shift of a row leads neither below the first code point nor beyond the last. -/
def isShifted (row : CaseRow) : Bool :=
  decide (0 ≤ row.first + row.shift) && decide (row.lower row.last < 0x110000)

theorem span_contains_of_covers (h : row.covers code = true) : row.span.contains code = true := by
  rw [covers, Bool.and_eq_true] at h
  exact h.1

/-- A lower case lies as far from the first one of its row as the letter from the first letter. -/
theorem lower_eq_add (shifted : row.isShifted = true) (h : row.first ≤ code) :
    row.lower code = row.lower row.first + (code - row.first) := by
  simp only [isShifted, Bool.and_eq_true, decide_eq_true_eq] at shifted
  rw [lower, lower]
  omega

theorem lowerSpan_contains_of_covers (shifted : row.isShifted = true)
    (h : row.covers code = true) : row.lowerSpan.contains (row.lower code) = true := by
  obtain ⟨low, high⟩ := CodeRange.contains_iff.1 (span_contains_of_covers h)
  have last := lower_eq_add shifted (Nat.le_trans low high)
  simp only [span] at low high last
  rw [CodeRange.contains_iff, lower_eq_add shifted low]
  simp only [lowerSpan]
  omega

theorem lower_lt (shifted : row.isShifted = true) (h : row.covers code = true) :
    row.lower code < 0x110000 := by
  have inside := CodeRange.contains_iff.1 (lowerSpan_contains_of_covers shifted h)
  simp only [isShifted, Bool.and_eq_true, decide_eq_true_eq] at shifted
  exact Nat.lt_of_le_of_lt inside.2 shifted.2

theorem not_covers_of_avoids (shifted : row.isShifted = true) (h : row.avoids other = true)
    (covered : row.covers code = true) : other.covers (row.lower code) = false := by
  rw [avoids, Bool.or_eq_true] at h
  rcases h with apart | interleaved
  · have outside := CodeRange.not_contains_of_isApartFrom apart
      (lowerSpan_contains_of_covers shifted covered)
    refine Bool.eq_false_iff.2 fun inside => ?_
    rw [span_contains_of_covers inside] at outside
    cases outside
  · -- Letter and lower case are an even distance from the first ones, and the first ones differ.
    simp only [Bool.and_eq_true, Bool.or_eq_true, beq_iff_eq] at interleaved
    obtain ⟨⟨two, runs⟩, odd⟩ := interleaved
    simp only [covers, Bool.and_eq_true, decide_eq_true_eq, beq_iff_eq] at covered
    obtain ⟨⟨low, high⟩, step⟩ := covered
    have away := lower_eq_add shifted low
    have even : (code - row.first) % 2 = 0 := by
      rcases runs with stride | single
      · rwa [stride] at step
      · omega
    simp only [covers, two, Bool.and_eq_false_iff, decide_eq_false_iff_not, beq_eq_false_iff_ne]
    omega

end CaseRow

/-! ### The table -/

theorem isShifted_of_mem_lowerRows : ∀ row ∈ lowerRows, row.isShifted = true := by
  decide +kernel

/-- No lower case has another lower case. -/
theorem avoids_of_mem_lowerRows : ∀ row ∈ lowerRows, ∀ other ∈ lowerRows,
    row.avoids other = true := by
  have checked : (lowerRows.all fun row => lowerRows.all row.avoids) = true := by decide +kernel
  simpa only [List.all_eq_true] using checked

/-- What no lower case of another letter is: a blank, a half of a pair, or one of the two characters
that are treated apart. -/
def reservedCodes : CodeSet :=
  blankCodes ++ [⟨0x0130, 0x0130⟩, ⟨0x03A3, 0x03A3⟩, ⟨0xD800, 0xDFFF⟩]

theorem lowerSpan_isApartFrom_reservedCodes : ∀ row ∈ lowerRows,
    reservedCodes.all row.lowerSpan.isApartFrom = true := by
  decide +kernel

theorem span_isApartFrom_blankCodes : ∀ row ∈ lowerRows,
    blankCodes.all row.span.isApartFrom = true := by
  decide +kernel

/-- A code point is its own lower case, or a row of the table has its lower case. -/
theorem lowerCode_eq_or_exists_row (code : Nat) :
    lowerCode code = code ∨
      ∃ row ∈ lowerRows, row.covers code = true ∧ lowerCode code = row.lower code := by
  rw [lowerCode]
  split
  · rename_i row found
    have taken := List.mem_of_find?_eq_some found
    exact Or.inr ⟨row, List.takeWhile_subset _ taken, by simpa using List.find?_some found, rfl⟩
  · exact Or.inl rfl

/-- A code point that no row covers is its own lower case. -/
theorem lowerCode_eq_self {code : Nat} (h : ∀ row ∈ lowerRows, row.covers code = false) :
    lowerCode code = code := by
  rcases lowerCode_eq_or_exists_row code with same | ⟨row, listed, covered, -⟩
  · exact same
  · rw [h row listed] at covered
    cases covered

theorem lowerCode_lowerCode (code : Nat) : lowerCode (lowerCode code) = lowerCode code := by
  rcases lowerCode_eq_or_exists_row code with same | ⟨row, listed, covered, low⟩
  · rw [same, same]
  · rw [low]
    refine lowerCode_eq_self fun other hother => ?_
    exact CaseRow.not_covers_of_avoids (isShifted_of_mem_lowerRows row listed)
      (avoids_of_mem_lowerRows row listed other hother) covered

/-- A lower case that is not the letter itself is a code point that is not reserved. -/
theorem lowerCode_eq_or_not_reserved (code : Nat) :
    lowerCode code = code ∨
      reservedCodes.contains (lowerCode code) = false ∧ lowerCode code < 0x110000 := by
  rcases lowerCode_eq_or_exists_row code with same | ⟨row, listed, covered, low⟩
  · exact Or.inl same
  · have shifted := isShifted_of_mem_lowerRows row listed
    rw [low]
    refine Or.inr ⟨?_, CaseRow.lower_lt shifted covered⟩
    exact CodeRange.not_contains_of_forall_isApartFrom
      (lowerSpan_isApartFrom_reservedCodes row listed)
      (CaseRow.lowerSpan_contains_of_covers shifted covered)

/-- A code point that has another lower case is no blank. -/
theorem lowerCode_eq_or_not_blank (code : Nat) :
    lowerCode code = code ∨ blankCodes.contains code = false := by
  rcases lowerCode_eq_or_exists_row code with same | ⟨row, listed, covered, -⟩
  · exact Or.inl same
  · exact Or.inr (CodeRange.not_contains_of_forall_isApartFrom
      (span_isApartFrom_blankCodes row listed) (CaseRow.span_contains_of_covers covered))

/-! ### Characters -/

theorem toNat_ofNat_of_isValidChar {code : Nat} (h : code.isValidChar) :
    (Char.ofNat code).toNat = code := by
  rw [Char.ofNat, dif_pos h]
  exact UInt32.toNat_ofNatLT

/-- The code points that are not reserved. -/
theorem not_reserved_iff {code : Nat} :
    reservedCodes.contains code = false ↔ blankCodes.contains code = false ∧ code ≠ 0x0130 ∧
      code ≠ 0x03A3 ∧ ¬(0xD800 ≤ code ∧ code ≤ 0xDFFF) := by
  rw [reservedCodes, CodeSet.contains, List.any_append, Bool.or_eq_false_iff]
  refine and_congr Iff.rfl ?_
  simp [CodeRange.contains]
  omega

/-- The character that a letter has for its lower case has the code point of the table. -/
theorem toNat_ofNat_lowerCode (c : Char) :
    (Char.ofNat (lowerCode c.toNat)).toNat = lowerCode c.toNat := by
  rcases lowerCode_eq_or_not_reserved c.toNat with same | ⟨free, bound⟩
  · rw [same, Char.ofNat_toNat]
  · obtain ⟨-, -, -, whole⟩ := not_reserved_iff.1 free
    refine toNat_ofNat_of_isValidChar ?_
    simp only [Nat.isValidChar]
    omega

/-- Whether a character is its own lower case in every context. -/
def IsSettled (c : Char) : Prop := c ≠ '\u03A3' ∧ lowerChar c = [c]

instance (c : Char) : Decidable (IsSettled c) := inferInstanceAs (Decidable (_ ∧ _))

theorem IsSettled.lowerBetween_eq {c : Char} (h : IsSettled c) (before after : List Char) :
    lowerBetween before c after = [c] := by
  rw [lowerBetween, if_neg h.1, h.2]

/-- A lower case from the table is settled. -/
theorem isSettled_ofNat_lowerCode {c : Char} (notSigma : c ≠ '\u03A3') (notDotted : c ≠ '\u0130') :
    IsSettled (Char.ofNat (lowerCode c.toNat)) := by
  have code := toNat_ofNat_lowerCode c
  generalize Char.ofNat (lowerCode c.toNat) = d at code ⊢
  have apart : d ≠ '\u03A3' ∧ d ≠ '\u0130' := by
    rcases lowerCode_eq_or_not_reserved c.toNat with same | ⟨free, -⟩
    · rw [same, Char.toNat_inj] at code
      rw [code]
      exact ⟨notSigma, notDotted⟩
    · obtain ⟨-, dotted, sigma, -⟩ := not_reserved_iff.1 free
      rw [← code] at dotted sigma
      exact ⟨fun h => sigma (h ▸ rfl), fun h => dotted (h ▸ rfl)⟩
  refine ⟨apart.1, ?_⟩
  rw [lowerChar, if_neg apart.2, code, lowerCode_lowerCode, ← code, Char.ofNat_toNat]

/-- Whatever a character becomes is settled, and it is a blank exactly if the character is one. -/
theorem isSettled_and_isBlank_eq_of_mem_lowerBetween {before after : List Char} {c d : Char}
    (h : d ∈ lowerBetween before c after) : IsSettled d ∧ isBlank d = isBlank c := by
  rw [lowerBetween] at h
  split at h
  · rename_i sigma
    subst sigma
    split at h <;> rw [List.mem_singleton.1 h] <;> decide +kernel
  rename_i notSigma
  rw [lowerChar] at h
  split at h
  · rename_i dotted
    subst dotted
    simp only [List.mem_cons, List.not_mem_nil, or_false] at h
    rcases h with rfl | rfl <;> decide +kernel
  rename_i notDotted
  rw [List.mem_singleton.1 h]
  refine ⟨isSettled_ofNat_lowerCode notSigma notDotted, ?_⟩
  rw [isBlank, isBlank, toNat_ofNat_lowerCode]
  rcases lowerCode_eq_or_not_blank c.toNat with same | visible
  · rw [same]
  · rcases lowerCode_eq_or_not_reserved c.toNat with same | ⟨free, -⟩
    · rw [same]
    · rw [visible, (not_reserved_iff.1 free).1]

theorem lowerBetween_ne_nil (before : List Char) (c : Char) (after : List Char) :
    lowerBetween before c after ≠ [] := by
  rw [lowerBetween, lowerChar]
  split
  · simp
  · split <;> simp

/-! ### Texts -/

/-- Whatever stands in a lower case comes from a character, is settled, and is a blank exactly if
that character is one. -/
theorem exists_of_mem_lowerAfter {before cs : List Char} {d : Char} (h : d ∈ lowerAfter before cs) :
    ∃ c ∈ cs, IsSettled d ∧ isBlank d = isBlank c := by
  induction cs generalizing before with
  | nil => cases h
  | cons c cs ih =>
    rcases List.mem_append.1 h with here | later
    · exact ⟨c, List.mem_cons_self, isSettled_and_isBlank_eq_of_mem_lowerBetween here⟩
    · obtain ⟨origin, horigin, known⟩ := ih later
      exact ⟨origin, List.mem_cons_of_mem _ horigin, known⟩

/-- Every character leaves a trace in the lower case. -/
theorem exists_mem_lowerAfter (before : List Char) {cs : List Char} {c : Char} (h : c ∈ cs) :
    ∃ d ∈ lowerAfter before cs, isBlank d = isBlank c := by
  induction cs generalizing before with
  | nil => cases h
  | cons first cs ih =>
    rcases List.mem_cons.1 h with rfl | later
    · obtain ⟨d, rest, hd⟩ := List.exists_cons_of_ne_nil (lowerBetween_ne_nil before c cs)
      have here : d ∈ lowerBetween before c cs := by simp [hd]
      exact ⟨d, List.mem_append_left _ here,
        (isSettled_and_isBlank_eq_of_mem_lowerBetween here).2⟩
    · obtain ⟨d, hd, same⟩ := ih (first :: before) later
      exact ⟨d, List.mem_append_right _ hd, same⟩

/-- A text of settled characters is its own lower case. -/
theorem lowerAfter_eq_self {before cs : List Char} (h : ∀ c ∈ cs, IsSettled c) :
    lowerAfter before cs = cs := by
  induction cs generalizing before with
  | nil => rfl
  | cons c cs ih =>
    obtain ⟨first, others⟩ := List.forall_mem_cons.1 h
    rw [lowerAfter, first.lowerBetween_eq, ih others, List.singleton_append]

/-- **A lower case is its own lower case.** -/
@[simp] theorem lower_lower (s : String) : lower (lower s) = lower s := by
  have settled : ∀ d ∈ lowerAfter [] s.toList, IsSettled d := by
    intro d hd
    obtain ⟨c, -, known, -⟩ := exists_of_mem_lowerAfter hd
    exact known
  rw [lower, lower, String.toList_ofList, lowerAfter_eq_self settled]

/-- Only the empty text has an empty lower case. -/
@[simp] theorem lower_eq_empty_iff {s : String} : lower s = "" ↔ s = "" := by
  rw [lower, ← String.toList_inj, String.toList_ofList]
  constructor
  · intro h
    refine String.toList_inj.1 (List.eq_nil_iff_forall_not_mem.2 fun c hc => ?_)
    obtain ⟨d, hd, -⟩ := exists_mem_lowerAfter [] hc
    rw [h] at hd
    cases hd
  · rintro rfl
    rfl

/-- **Lower-casing neither makes nor removes blanks.** -/
theorem forall_mem_lower_not_isBlank_iff {s : String} :
    (∀ d ∈ (lower s).toList, isBlank d = false) ↔ ∀ c ∈ s.toList, isBlank c = false := by
  rw [lower, String.toList_ofList]
  constructor
  · intro h c hc
    obtain ⟨d, hd, same⟩ := exists_mem_lowerAfter [] hc
    rw [← same, h d hd]
  · intro h d hd
    obtain ⟨c, hc, -, same⟩ := exists_of_mem_lowerAfter hd
    rw [same, h c hc]

end CommandRouter
