import CommandRouter.Store.Statement

/-!
# How a statement is read

A statement is a text, and what reads it takes it apart into words and marks. Blanks stand between
words and mean nothing else, and so do the lines; a mark is a word of its own, whether there are
blanks around it or not.

A text that is put together of pieces is read piece by piece, as long as no word goes across from
one piece to the next. So it is enough that a piece ends, or the next one begins, with a blank or a
mark. The clauses of a statement do, whatever names stand in them.

## Names

Names stand in a statement as they are, and they are compared as they are spelled. A text is a name
if it is read as one word, that is, if it holds neither a blank nor a mark.

## Main definitions

* `Statement.tokens` are the words and marks of a text.
* `Statement.IsName` says what is read as one word.

## Main results

* `Statement.tokens_append` reads a text in two parts, and `Statement.tokens_clauseLines` reads
  clauses on lines of their own.
* `Statement.tokens_intercalate_names` reads a list of names.
-/

namespace CommandRouter

namespace Statement

/-! ### Words and marks -/

/-- Whether a character is a word of its own. -/
def isMark (c : Char) : Bool := ['(', ')', ',', '.', '='].contains c

/-- The characters of a text with blanks around every mark. -/
def spaced (cs : List Char) : List Char :=
  cs.flatMap fun c => if isMark c then [' ', c, ' '] else [c]

/-- The words and marks of a text, in order. -/
def tokens (s : String) : List String :=
  (wordChars (spaced s.toList)).map String.ofList

example : tokens "SET a = EXCLUDED.a,b" = ["SET", "a", "=", "EXCLUDED", ".", "a", ",", "b"] := by
  decide +kernel

/-- Whether a character stands between words. -/
def isSeparator (c : Char) : Bool := isBlank c || isMark c

/-- Whether a word that ends where a text begins is ended by it. -/
def startsApart (s : String) : Bool := s.toList.head?.any isSeparator

/-- Whether a word that begins where a text ends is not continued from it. -/
def endsApart (s : String) : Bool := s.toList.getLast?.any isSeparator

theorem endsApart_append (s : String) {t : String} (apart : endsApart t = true) :
    endsApart (s ++ t) = true := by
  rw [endsApart, Option.any_eq_true] at apart
  obtain ⟨c, last, separator⟩ := apart
  rw [endsApart, String.toList_append, List.getLast?_append, last]
  exact separator

/-- There are blanks at both ends of what a separator is spaced to. -/
theorem exists_spaced_of_isSeparator {c : Char} (separator : isSeparator c = true) :
    (∃ front last, isBlank last = true ∧ spaced [c] = front ++ [last]) ∧
      ∃ first back, isBlank first = true ∧ spaced [c] = first :: back := by
  have blank : isBlank ' ' = true := by decide
  rw [spaced, List.flatMap_singleton]
  by_cases mark : isMark c = true
  · rw [if_pos mark]
    exact ⟨⟨[' ', c], ' ', blank, rfl⟩, ' ', [c, ' '], blank, rfl⟩
  · have itself : isBlank c = true := by simpa [isSeparator, mark] using separator
    rw [if_neg mark]
    exact ⟨⟨[], c, itself, rfl⟩, c, [], itself, rfl⟩

theorem wordChars_spaced_append_of_separator {c : Char} (separator : isSeparator c = true)
    (before after : List Char) :
    wordChars (spaced ((before ++ [c]) ++ after)) =
        wordChars (spaced (before ++ [c])) ++ wordChars (spaced after) ∧
      wordChars (spaced (before ++ c :: after)) =
        wordChars (spaced before) ++ wordChars (spaced (c :: after)) := by
  have spaced_append (xs ys : List Char) : spaced (xs ++ ys) = spaced xs ++ spaced ys :=
    List.flatMap_append
  obtain ⟨⟨front, last, end_blank, front_eq⟩, first, back, start_blank, back_eq⟩ :=
    exists_spaced_of_isSeparator separator
  constructor
  · have cut := wordChars_append_cons end_blank (spaced before ++ front) (spaced after)
    have nothing := wordChars_append_cons end_blank (spaced before ++ front) []
    rw [wordChars_nil, List.append_nil] at nothing
    rw [spaced_append, spaced_append, front_eq, ← List.append_assoc, nothing, ← cut]
    simp
  · have cut := wordChars_append_cons start_blank (spaced before) (back ++ spaced after)
    rw [List.append_cons before c after, List.append_assoc, spaced_append,
      List.singleton_append, ← List.singleton_append, spaced_append [c] after, back_eq,
      List.cons_append, cut, wordChars_cons start_blank]

/-- **A text is read in two parts**, if no word goes across. -/
theorem tokens_append {s t : String} (apart : endsApart s = true ∨ startsApart t = true) :
    tokens (s ++ t) = tokens s ++ tokens t := by
  rw [tokens, tokens, tokens, ← List.map_append, String.toList_append]
  refine congrArg (List.map String.ofList) ?_
  rcases apart with apart | apart
  · obtain ⟨c, last, separator⟩ := (Option.any_eq_true _ _).1 apart
    obtain ⟨before, split⟩ := List.getLast?_eq_some_iff.1 last
    rw [split, (wordChars_spaced_append_of_separator separator before t.toList).1]
  · obtain ⟨c, first, separator⟩ := (Option.any_eq_true _ _).1 apart
    obtain ⟨after, split⟩ := List.head?_eq_some_iff.1 first
    rw [split, (wordChars_spaced_append_of_separator separator s.toList after).2]

/-! ### Names -/

/-- Whether a text is read as one word. -/
def IsName (s : String) : Prop :=
  s ≠ "" ∧ ∀ c ∈ s.toList, isSeparator c = false

instance (s : String) : Decidable (IsName s) :=
  decidable_of_iff (s ≠ "" ∧ s.toList.all (fun c => !isSeparator c) = true) (by simp [IsName])

theorem spaced_eq_self {cs : List Char} (unmarked : ∀ c ∈ cs, isMark c = false) :
    spaced cs = cs := by
  induction cs with
  | nil => rfl
  | cons c later ih =>
    obtain ⟨first, others⟩ := List.forall_mem_cons.1 unmarked
    rw [spaced, List.flatMap_cons, first]
    exact congrArg (c :: ·) (ih others)

theorem tokens_of_isName {s : String} (name : IsName s) : tokens s = [s] := by
  obtain ⟨nonempty, whole⟩ := name
  have bare : spaced s.toList = s.toList :=
    spaced_eq_self fun c member => (Bool.or_eq_false_iff.1 (whole c member)).2
  have word : wordChars s.toList = [s.toList] :=
    wordChars_eq_singleton (by simpa using nonempty) fun c member =>
      (Bool.or_eq_false_iff.1 (whole c member)).1
  rw [tokens, bare, word, List.map_singleton, String.ofList_toList]

theorem IsName.ne_of_isMark {s : String} (name : IsName s) {c : Char} (mark : isMark c = true) :
    s ≠ String.singleton c := by
  rintro rfl
  have separator := name.2 c (by simp)
  simp [isSeparator, mark] at separator

/-! ### Lists of items -/

/-- Items with commas between them. -/
theorem tokens_intercalate (items : List String) :
    tokens (", ".intercalate items) = [","].intercalate (items.map tokens) := by
  have comma : tokens ", " = [","] := by decide +kernel
  induction items with
  | nil => decide +kernel
  | cons first later ih =>
    cases later with
    | nil => rw [String.intercalate_singleton, List.map_singleton, List.intercalate_singleton]
    | cons second rest =>
      have across : endsApart (first ++ ", ") = true := endsApart_append first (by decide)
      rw [String.intercalate_cons_cons, tokens_append (.inl across),
        tokens_append (.inr (by decide)), comma, ih]
      simp only [List.map_cons, List.intercalate_cons_cons]

/-- Clauses on lines of their own are read one after another. -/
theorem tokens_clauseLines (clauses : List String) :
    tokens (clauseLines clauses) = clauses.flatMap tokens := by
  have lines : tokens (String.join (clauses.map fun clause => "            " ++ clause ++ "\n")) =
      clauses.flatMap tokens := by
    induction clauses with
    | nil => decide +kernel
    | cons clause later ih =>
      have across : endsApart ("            " ++ clause ++ "\n") = true :=
        endsApart_append _ (by decide)
      have indented : tokens ("            " ++ clause ++ "\n") = tokens clause := by
        have margin : tokens "            " = [] := by decide +kernel
        have newline : tokens "\n" = [] := by decide +kernel
        rw [tokens_append (.inr (by decide)), tokens_append (.inl (by decide)), margin, newline,
          List.nil_append, List.append_nil]
      rw [List.map_cons, String.join_cons, tokens_append (.inl across), indented, ih,
        List.flatMap_cons]
  have first : tokens "\n" = [] := by decide +kernel
  have last : tokens "        " = [] := by decide +kernel
  rw [clauseLines, tokens_append (.inr (by decide)), tokens_append (.inl (by decide)), lines, first,
    last, List.nil_append, List.append_nil]

/-- What is read where names are listed. -/
def listed (names : List String) : List String := [","].intercalate (names.map fun name => [name])

theorem tokens_intercalate_names {names : List String} (plain : ∀ name ∈ names, IsName name) :
    tokens (", ".intercalate names) = listed names := by
  rw [tokens_intercalate, listed]
  exact congrArg _ (List.map_congr_left fun name member => tokens_of_isName (plain name member))

end Statement

end CommandRouter
