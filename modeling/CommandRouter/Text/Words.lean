import CommandRouter.Text.Blank

/-!
# Cutting text into pieces and words

Cutting loses nothing but the separators, and a word is never empty and never holds a blank.

## Main results

* `mem_pieces` and `mem_wordChars` say what pieces and words are made of.
* `pieces_append_cons` and `wordChars_append_cons` cut a text at a separator; everything about
  pieces and words follows from them.
* `pieces_eq_singleton`, `wordChars_eq_singleton` and `words_eq_singleton` are the texts that are
  not cut.
* `wordChars_append_of_blank` and `wordChars_append_of_word` find the first word of a line.
-/

namespace CommandRouter

variable {α : Type} {p : α → Bool}

theorem pieces_ne_nil (p : α → Bool) (cs : List α) : pieces p cs ≠ [] := by
  induction cs with
  | nil => simp [pieces]
  | cons c cs ih =>
    rw [pieces]
    split
    · simp
    · cases h : pieces p cs with
      | nil => exact absurd h ih
      | cons piece rest => simp

/-- A piece holds no separator. -/
theorem mem_pieces {piece cs : List α} (h : piece ∈ pieces p cs) : ∀ c ∈ piece, p c = false := by
  induction cs generalizing piece with
  | nil =>
    simp only [pieces, List.mem_singleton] at h
    simp [h]
  | cons c cs ih =>
    rw [pieces] at h
    split at h
    · rcases List.mem_cons.1 h with rfl | h
      · simp
      · exact ih h
    · rename_i notSeparator
      cases rest : pieces p cs with
      | nil => exact absurd rest (pieces_ne_nil p cs)
      | cons first later =>
        rw [rest, List.modifyHead_cons] at h
        rcases List.mem_cons.1 h with rfl | h
        · intro d hd
          rcases List.mem_cons.1 hd with rfl | hd
          · simpa using notSeparator
          · exact ih (rest ▸ List.mem_cons_self) d hd
        · exact ih (rest ▸ List.mem_cons_of_mem _ h)

/-- A list without separators is a single piece. -/
theorem pieces_eq_singleton {cs : List α} (h : ∀ c ∈ cs, p c = false) : pieces p cs = [cs] := by
  induction cs with
  | nil => rfl
  | cons c cs ih =>
    rw [pieces, if_neg (by simp [h c (by simp)]), ih fun d hd => h d (by simp [hd])]
    rfl

/-- **A list is cut at a separator.** What stands before it and what stands after it are cut
apart from each other. -/
theorem pieces_append_cons {c : α} (separator : p c = true) (before after : List α) :
    pieces p (before ++ c :: after) = pieces p before ++ pieces p after := by
  induction before with
  | nil => simp [pieces, separator]
  | cons d before ih =>
    rw [List.cons_append, pieces, pieces, ih]
    split
    · rfl
    · cases rest : pieces p before with
      | nil => exact absurd rest (pieces_ne_nil p before)
      | cons first later => rfl

/-! ### Words -/

@[simp] theorem wordChars_nil : wordChars [] = [] := rfl

/-- A word is not empty and holds no blank. -/
theorem mem_wordChars {word cs : List Char} (h : word ∈ wordChars cs) :
    word ≠ [] ∧ ∀ c ∈ word, isBlank c = false := by
  rw [wordChars, List.mem_filter] at h
  exact ⟨by simpa using h.2, mem_pieces h.1⟩

/-- A text that is not empty and holds no blank is a single word. -/
theorem wordChars_eq_singleton {cs : List Char} (nonempty : cs ≠ [])
    (h : ∀ c ∈ cs, isBlank c = false) : wordChars cs = [cs] := by
  rw [wordChars, pieces_eq_singleton h]
  simp [nonempty]

theorem words_eq_singleton {s : String} (nonempty : s ≠ "")
    (h : ∀ c ∈ s.toList, isBlank c = false) : words s = [s] := by
  rw [words, wordChars_eq_singleton (by simpa using nonempty) h, List.map_singleton,
    String.ofList_toList]

/-- **A line is cut at a blank.** The words before it and the words after it are the words of the
line. -/
theorem wordChars_append_cons {c : Char} (blank : isBlank c = true) (before after : List Char) :
    wordChars (before ++ c :: after) = wordChars before ++ wordChars after := by
  rw [wordChars, pieces_append_cons blank, List.filter_append]
  rfl

/-- A blank at the front belongs to no word. -/
theorem wordChars_cons {c : Char} (blank : isBlank c = true) (cs : List Char) :
    wordChars (c :: cs) = wordChars cs :=
  wordChars_append_cons blank [] cs

/-- Blanks at the front belong to no word. -/
theorem wordChars_append_of_blank {blanks : List Char} (h : ∀ c ∈ blanks, isBlank c = true)
    (cs : List Char) : wordChars (blanks ++ cs) = wordChars cs := by
  induction blanks with
  | nil => rfl
  | cons c blanks ih =>
    obtain ⟨first, others⟩ := List.forall_mem_cons.1 h
    rw [List.cons_append, wordChars_cons first, ih others]

/-- A word ends at the end of the line or at a blank. -/
theorem wordChars_append_of_word {word rest : List Char} (nonempty : word ≠ [])
    (unbroken : ∀ c ∈ word, isBlank c = false) (ends : ∀ c ∈ rest.head?, isBlank c = true) :
    wordChars (word ++ rest) = word :: wordChars rest := by
  cases rest with
  | nil => rw [List.append_nil, wordChars_eq_singleton nonempty unbroken, wordChars_nil]
  | cons c rest =>
    have blank : isBlank c = true := ends c rfl
    rw [wordChars_append_cons blank, wordChars_eq_singleton nonempty unbroken,
      wordChars_cons blank]
    rfl

/-- A visible character belongs to a word. -/
theorem wordChars_cons_ne_nil {c : Char} (visible : isBlank c = false) (cs : List Char) :
    wordChars (c :: cs) ≠ [] := by
  rw [wordChars, pieces, if_neg (by simp [visible])]
  cases rest : pieces isBlank cs with
  | nil => exact absurd rest (pieces_ne_nil _ cs)
  | cons first later => simp

/-- A line has no words exactly if it is blank. -/
theorem wordChars_eq_nil_iff {cs : List Char} :
    wordChars cs = [] ↔ ∀ c ∈ cs, isBlank c = true := by
  induction cs with
  | nil => simp
  | cons c cs ih =>
    cases blank : isBlank c with
    | true => rw [wordChars_cons blank, ih, List.forall_mem_cons, and_iff_right blank]
    | false =>
      refine ⟨fun none => absurd none (wordChars_cons_ne_nil blank cs), fun all => ?_⟩
      exact absurd (all c List.mem_cons_self) (by simp [blank])

end CommandRouter
