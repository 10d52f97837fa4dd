import CommandRouter.Proofs.LetterCase
import CommandRouter.Value.Strings

/-!
# The lower case of a string that is no text

The texts between the halves of a string are lower-cased one by one, and the halves stay where they
are. What stands between two halves afterwards is the lower case of a text, so lower-casing once
more finds the same pieces and leaves every one of them.

## Main results

* `Label.lowered_lowered` and `Label.isEmpty_lowered` say that labels are lower-cased like texts.
-/

namespace CommandRouter

/-! ### Pieces without halves -/

theorem lowerTextCodes_lowerTextCodes (codes : List Nat) :
    lowerTextCodes (lowerTextCodes codes) = lowerTextCodes codes := by
  have spelled (s : String) : String.ofList ((s.toList.map Char.toNat).map Char.ofNat) = s := by
    have chars : (s.toList.map Char.toNat).map Char.ofNat = s.toList := by
      rw [List.map_map]
      exact List.map_id'' Char.ofNat_toNat s.toList
    rw [chars, String.ofList_toList]
  rw [lowerTextCodes, lowerTextCodes, spelled, lower_lower]

theorem lowerTextCodes_eq_nil_iff {codes : List Nat} : lowerTextCodes codes = [] ↔ codes = [] := by
  rw [lowerTextCodes, List.map_eq_nil_iff, String.toList_eq_nil_iff, lower_eq_empty_iff,
    ← String.toList_eq_nil_iff, String.toList_ofList, List.map_eq_nil_iff]

theorem isSurrogate_of_mem_lowerTextCodes {codes : List Nat} {code : Nat}
    (h : code ∈ lowerTextCodes codes) : isSurrogate code = false := by
  obtain ⟨c, -, rfl⟩ := List.mem_map.1 h
  exact isSurrogate_toNat c

/-! ### Whole strings -/

/-- A piece without halves is passed as a whole. -/
theorem lowerCodes_append {piece : List Nat} (h : ∀ code ∈ piece, isSurrogate code = false)
    (codes passed : List Nat) :
    lowerCodes (piece ++ codes) passed = lowerCodes codes (piece.reverse ++ passed) := by
  induction piece generalizing passed with
  | nil => rfl
  | cons code later ih =>
    obtain ⟨whole, others⟩ := List.forall_mem_cons.1 h
    rw [List.cons_append, lowerCodes, if_neg (by simp [whole]), ih others, List.reverse_cons,
      List.append_assoc, List.singleton_append]

/-- By induction on what is to come. What has passed since the last half is a piece, of which it is
known by now that it is its own lower case. -/
theorem lowerCodes_lowerCodes (codes passed : List Nat) :
    lowerCodes (lowerCodes codes passed) [] = lowerCodes codes passed := by
  have piece : ∀ code ∈ lowerTextCodes passed.reverse, isSurrogate code = false :=
    fun _ => isSurrogate_of_mem_lowerTextCodes
  induction codes generalizing passed with
  | nil =>
    have ended := lowerCodes_append piece [] []
    rw [List.append_nil, List.append_nil] at ended
    rw [lowerCodes, ended, lowerCodes, List.reverse_reverse, lowerTextCodes_lowerTextCodes]
  | cons code later ih =>
    rw [lowerCodes]
    split
    · rename_i half
      rw [lowerCodes_append piece, List.append_nil, lowerCodes, if_pos half, List.reverse_reverse,
        lowerTextCodes_lowerTextCodes, ih [] (by simp [lowerTextCodes_eq_nil_iff.2])]
    · exact ih (code :: passed) fun _ => isSurrogate_of_mem_lowerTextCodes

theorem lowerCodes_eq_nil_iff {codes passed : List Nat} :
    lowerCodes codes passed = [] ↔ codes = [] ∧ passed = [] := by
  induction codes generalizing passed with
  | nil => simp [lowerCodes, lowerTextCodes_eq_nil_iff]
  | cons code later ih =>
    rw [lowerCodes]
    split
    · simp
    · simp [ih]

/-! ### Labels -/

namespace Label

@[simp] theorem lowered_lowered (label : Label) : label.lowered.lowered = label.lowered := by
  cases label with
  | text s => exact congrArg text (lower_lower s)
  | ragged codes => exact congrArg ragged (lowerCodes_lowerCodes codes [])

@[simp] theorem isEmpty_lowered (label : Label) : label.lowered.isEmpty = label.isEmpty := by
  rw [Bool.eq_iff_iff]
  cases label with
  | text s => simp [lowered, isEmpty]
  | ragged codes => simp [lowered, isEmpty, lowerCodes_eq_nil_iff]

end Label

end CommandRouter
