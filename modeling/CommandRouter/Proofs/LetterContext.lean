import CommandRouter.Proofs.LetterCase
import CommandRouter.Text.Words

/-!
# The lower case of a part of a text

The lower case of a text is not put together from the lower cases of its parts. A capital sigma
takes its final form if a cased letter comes before it and none comes after it, and to find out it
looks past the characters that it ignores. So a text that is cut next to a sigma may have another
lower case than its two halves together.

## How far a sigma looks

Any character that is not ignored ends the search. A blank is neither ignored nor cased, so nothing
beyond a blank counts, and a text that is cut at its blanks falls into parts that are lower-cased
each by itself.

A text may be cut elsewhere too, unless a sigma is in the way: one that is final only because the
first half ends, while the second half starts with a cased letter. Then the first half has a final
sigma, and the whole has the ordinary one in its place. In all other cases the lower case of the
first half is the beginning of that of the whole.

## Main definitions

* `endsInFinalSigma` decides whether a sigma is final because its text ends.

## Main results

* `startsCased_append` says what a search finds in a text of two parts.
* `words_lower` says that the words of a lower case are the lower cases of the words.
* `isPrefix_lower_append_iff` says when the lower case of a beginning is a beginning of the lower
  case.
-/

namespace CommandRouter

/-! ### The search for a cased letter -/

theorem startsCased_cons (c : Char) (cs : List Char) :
    startsCased (c :: cs) = if isCaseIgnorable c then startsCased cs else isCased c := by
  cases ignored : isCaseIgnorable c with
  | true => rw [startsCased, List.dropWhile_cons_of_pos ignored, if_pos rfl, startsCased]
  | false =>
    rw [startsCased, List.dropWhile_cons_of_neg (by simp [ignored]), if_neg Bool.false_ne_true]

/-- The search goes on into the second part only if it ignores all of the first. -/
theorem startsCased_append (cs rest : List Char) :
    startsCased (cs ++ rest) =
      if cs.all isCaseIgnorable then startsCased rest else startsCased cs := by
  induction cs with
  | nil => rfl
  | cons c cs ih =>
    rw [List.cons_append, startsCased_cons, startsCased_cons, ih, List.all_cons]
    cases isCaseIgnorable c <;> rfl

/-- In what it ignores the search finds nothing. -/
theorem startsCased_eq_false_of_all {cs : List Char} (h : cs.all isCaseIgnorable = true) :
    startsCased cs = false := by
  have found := startsCased_append cs []
  rwa [List.append_nil, if_pos h] at found

/-- Of its neighbours a character sees only whether a cased letter is found on either side. -/
theorem lowerBetween_congr {before before' after after' : List Char}
    (hbefore : startsCased before = startsCased before')
    (hafter : startsCased after = startsCased after') (c : Char) :
    lowerBetween before c after = lowerBetween before' c after' := by
  rw [lowerBetween, lowerBetween, hbefore, hafter]

theorem lowerAfter_congr {before before' : List Char}
    (h : startsCased before = startsCased before') (cs : List Char) :
    lowerAfter before cs = lowerAfter before' cs := by
  induction cs generalizing before before' with
  | nil => rfl
  | cons c cs ih =>
    have next : startsCased (c :: before) = startsCased (c :: before') := by
      rw [startsCased_cons, startsCased_cons, h]
    rw [lowerAfter, lowerAfter, lowerBetween_congr h rfl, ih next]

/-! ### Cutting at a blank -/

theorem blankCodes_isApartFrom_casedLetters : ∀ range ∈ blankCodes,
    casedLetters.all range.isApartFrom = true := by
  decide +kernel

theorem blankCodes_isApartFrom_caseIgnorable : ∀ range ∈ blankCodes,
    caseIgnorable.all range.isApartFrom = true := by
  decide +kernel

section Blank

variable {b : Char}

/-- A blank ends the search, and is not what is searched for. -/
theorem startsCased_cons_of_isBlank (blank : isBlank b = true) (rest : List Char) :
    startsCased (b :: rest) = false := by
  obtain ⟨range, listed, inside⟩ := List.any_eq_true.1 blank
  have ends : isCaseIgnorable b = false :=
    CodeRange.not_contains_of_forall_isApartFrom
      (blankCodes_isApartFrom_caseIgnorable range listed) inside
  have uncased : isCased b = false :=
    CodeRange.not_contains_of_forall_isApartFrom
      (blankCodes_isApartFrom_casedLetters range listed) inside
  rw [startsCased_cons, ends, uncased]
  rfl

theorem isSettled_of_isBlank (blank : isBlank b = true) : IsSettled b := by
  have notSigma : b ≠ '\u03A3' := by
    rintro rfl
    exact absurd blank (by decide +kernel)
  have notDotted : b ≠ '\u0130' := by
    rintro rfl
    exact absurd blank (by decide +kernel)
  have same : lowerCode b.toNat = b.toNat :=
    (lowerCode_eq_or_not_blank b.toNat).resolve_right (by simpa [isBlank] using blank)
  refine ⟨notSigma, ?_⟩
  rw [lowerChar, if_neg notDotted, same, Char.ofNat_toNat]

/-- **What stands on the two sides of a blank is lower-cased apart.** -/
theorem lowerAfter_append_cons (blank : isBlank b = true) (before cs rest : List Char) :
    lowerAfter before (cs ++ b :: rest) = lowerAfter before cs ++ b :: lowerAfter [] rest := by
  induction cs generalizing before with
  | nil =>
    have unseen : startsCased (b :: before) = startsCased [] :=
      startsCased_cons_of_isBlank blank before
    show lowerBetween before b rest ++ lowerAfter (b :: before) rest = b :: lowerAfter [] rest
    rw [(isSettled_of_isBlank blank).lowerBetween_eq, lowerAfter_congr unseen]
    rfl
  | cons c cs ih =>
    have unseen : startsCased (cs ++ b :: rest) = startsCased cs := by
      rw [startsCased_append, startsCased_cons_of_isBlank blank]
      split
      · rename_i ignored
        exact (startsCased_eq_false_of_all ignored).symm
      · rfl
    rw [List.cons_append, lowerAfter, lowerAfter, lowerBetween_congr rfl unseen, ih,
      List.append_assoc]

end Blank

/-- The lower case of a single word is a single word. -/
theorem wordChars_lowerAfter_of_unbroken {cs : List Char} (unbroken : ∀ c ∈ cs, isBlank c = false) :
    wordChars (lowerAfter [] cs) = (wordChars cs).map (lowerAfter []) := by
  cases cs with
  | nil => rfl
  | cons c later =>
    have nonempty : lowerAfter [] (c :: later) ≠ [] := by
      obtain ⟨d, hd, -⟩ := exists_mem_lowerAfter [] (List.mem_cons_self : c ∈ c :: later)
      exact List.ne_nil_of_mem hd
    have unbroken' : ∀ d ∈ lowerAfter [] (c :: later), isBlank d = false := by
      intro d hd
      obtain ⟨origin, horigin, -, same⟩ := exists_of_mem_lowerAfter hd
      rw [same, unbroken origin horigin]
    rw [wordChars_eq_singleton nonempty unbroken',
      wordChars_eq_singleton (List.cons_ne_nil _ _) unbroken, List.map_singleton]

theorem wordChars_lowerAfter (cs : List Char) :
    wordChars (lowerAfter [] cs) = (wordChars cs).map (lowerAfter []) := by
  -- The induction is on the length, since a text may be cut at any of its blanks.
  induction size : cs.length using Nat.strongRecOn generalizing cs with
  | ind n ih =>
    by_cases broken : ∃ b ∈ cs, isBlank b = true
    · obtain ⟨b, listed, blank⟩ := broken
      obtain ⟨before, after, rfl⟩ := List.append_of_mem listed
      rw [List.length_append, List.length_cons] at size
      have first := ih before.length (by omega) before rfl
      have second := ih after.length (by omega) after rfl
      rw [lowerAfter_append_cons blank, wordChars_append_cons blank, wordChars_append_cons blank,
        List.map_append, first, second]
    · refine wordChars_lowerAfter_of_unbroken fun c hc => ?_
      exact Bool.eq_false_iff.2 fun blank => broken ⟨c, hc, blank⟩

/-- **The words of a lower case are the lower cases of the words.** -/
theorem words_lower (s : String) : words (lower s) = (words s).map lower := by
  rw [words, words, lower, String.toList_ofList, wordChars_lowerAfter, List.map_map, List.map_map]
  refine List.map_congr_left fun word _ => ?_
  simp [lower]

/-! ### Cutting elsewhere -/

/-- Whether characters that follow `before`, nearest first, have a capital sigma that takes its
final form because they end: one after a cased letter, with nothing behind it but what it looks
past. -/
def endsInFinalSigmaAfter (before : List Char) : List Char → Bool
  | [] => false
  | c :: cs =>
    (c == '\u03A3' && startsCased before && cs.all isCaseIgnorable) ||
      endsInFinalSigmaAfter (c :: before) cs

/-- Whether a text has a capital sigma that takes its final form because the text ends. -/
def endsInFinalSigma (s : String) : Bool := endsInFinalSigmaAfter [] s.toList

/-- A character that is not such a sigma becomes the same whatever follows the text. -/
theorem lowerBetween_append {before cs rest : List Char} {c : Char}
    (h : (c == '\u03A3' && startsCased before && cs.all isCaseIgnorable && startsCased rest) =
      false) : lowerBetween before c (cs ++ rest) = lowerBetween before c cs := by
  by_cases sigma : c = '\u03A3'
  · subst sigma
    rw [lowerBetween, lowerBetween, if_pos rfl, if_pos rfl, startsCased_append]
    cases ignored : cs.all isCaseIgnorable with
    | false => rfl
    | true =>
      have unseen : startsCased before = true → startsCased rest = false := by
        simpa [ignored] using h
      rw [if_pos rfl, startsCased_eq_false_of_all ignored]
      cases cased : startsCased before with
      | false => rfl
      | true => rw [unseen cased]
  · rw [lowerBetween, lowerBetween, if_neg sigma, if_neg sigma]

/-- Such a sigma becomes another one if a cased letter follows the text. -/
theorem lowerBetween_append_of_cased {before cs rest : List Char}
    (cased : startsCased before = true) (ignored : cs.all isCaseIgnorable = true)
    (follows : startsCased rest = true) :
    lowerBetween before '\u03A3' cs = ['\u03C2'] ∧
      lowerBetween before '\u03A3' (cs ++ rest) = ['\u03C3'] := by
  rw [lowerBetween, lowerBetween, if_pos rfl, if_pos rfl, startsCased_append, if_pos ignored,
    startsCased_eq_false_of_all ignored, cased, follows]
  exact ⟨rfl, rfl⟩

theorem isPrefix_lowerAfter_append_iff {before cs rest : List Char} :
    lowerAfter before cs <+: lowerAfter before (cs ++ rest) ↔
      (endsInFinalSigmaAfter before cs && startsCased rest) = false := by
  induction cs generalizing before with
  | nil => simp [lowerAfter, endsInFinalSigmaAfter]
  | cons c cs ih =>
    rw [List.cons_append, lowerAfter, lowerAfter, endsInFinalSigmaAfter]
    cases here : c == '\u03A3' && startsCased before && cs.all isCaseIgnorable &&
        startsCased rest with
    | false =>
      rw [lowerBetween_append here, List.prefix_append_right_inj, ih, Bool.and_or_distrib_right,
        here, Bool.false_or]
    | true =>
      simp only [Bool.and_eq_true, beq_iff_eq] at here
      obtain ⟨⟨⟨rfl, cased⟩, ignored⟩, follows⟩ := here
      obtain ⟨final, ordinary⟩ := lowerBetween_append_of_cased cased ignored follows
      rw [final, ordinary, cased, ignored, follows]
      simp

/-- **The lower case of a beginning is a beginning of the lower case**, unless it has a sigma that
is final only there. -/
theorem isPrefix_lower_append_iff (s t : String) :
    (lower s).toList <+: (lower (s ++ t)).toList ↔
      (endsInFinalSigma s && startsCased t.toList) = false := by
  rw [lower, lower, String.toList_ofList, String.toList_ofList, String.toList_append]
  exact isPrefix_lowerAfter_append_iff

end CommandRouter
