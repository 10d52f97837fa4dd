import CommandRouter.Text.Words

/-!
# Lists in a text

A list stands in a text with a separator between its items, and an item may have blanks around it.
The text is read by cutting it at the separators and trimming the pieces. Cutting undoes the
joining of items that hold no separator, with one exception: no items at all and one item that is
empty are both written as the empty text.

Trimming knows only the two ends of a text. It takes away the blanks that stand there, however many
they are, up to the first and the last character that is no blank; so what it takes away can be
anything blank, and a text with no blank at its ends is left as it is.

## Main definitions

* `IsTrimmed` says that no blank stands at either end of a text.

## Main results

* `isTrimmed_trim` and `trim_padded` say what trimming leaves and what it takes away.
* `splitAt_intercalate` reads a list that was written with separators.
-/

namespace CommandRouter

/-! ### Trimming -/

section TrimChars

variable {p : Char → Bool} {cs : List Char}

/-- Nothing is dropped from a list whose first character is not to be dropped. -/
theorem dropWhile_eq_self (front : ∀ c ∈ cs.head?, p c = false) : cs.dropWhile p = cs := by
  cases cs with
  | nil => rfl
  | cons c later => exact List.dropWhile_cons_of_neg (by simp [front c rfl])

/-- The first character that is left is not one to be dropped. -/
theorem head?_dropWhile (p : Char → Bool) (cs : List Char) :
    ∀ c ∈ (cs.dropWhile p).head?, p c = false := by
  intro c first
  have kept := List.head?_dropWhile_not p cs
  rw [Option.mem_def] at first
  rwa [first] at kept

theorem trimChars_eq_nil (all : ∀ c ∈ cs, p c = true) : trimChars p cs = [] := by
  have none : cs.dropWhile p = [] := by
    rw [← List.append_nil cs, List.dropWhile_append_of_pos all, List.dropWhile_nil]
  rw [trimChars, none]
  rfl

/-- **What stands around a list is dropped**, and the list is left, if its ends are to be kept. -/
theorem trimChars_padded {before after : List Char} (nonempty : cs ≠ [])
    (front : ∀ c ∈ cs.head?, p c = false) (back : ∀ c ∈ cs.getLast?, p c = false)
    (ahead : ∀ c ∈ before, p c = true) (behind : ∀ c ∈ after, p c = true) :
    trimChars p (before ++ cs ++ after) = cs := by
  have first : ∀ c ∈ (cs ++ after).head?, p c = false := by
    cases cs with
    | nil => exact absurd rfl nonempty
    | cons c later => exact front
  have last : ∀ c ∈ cs.reverse.head?, p c = false := by rwa [List.head?_reverse]
  rw [trimChars, List.append_assoc, List.dropWhile_append_of_pos ahead, dropWhile_eq_self first,
    List.reverse_append,
    List.dropWhile_append_of_pos fun c member => behind c (List.mem_reverse.1 member),
    dropWhile_eq_self last, List.reverse_reverse]

/-- What is left after dropping from both ends has both its ends. -/
theorem trimChars_ends (p : Char → Bool) (cs : List Char) :
    (∀ c ∈ (trimChars p cs).head?, p c = false) ∧
      ∀ c ∈ (trimChars p cs).getLast?, p c = false := by
  rw [trimChars]
  constructor
  · intro c first
    -- What is left at the end is a beginning of what is left at the front.
    obtain ⟨dropped, cut⟩ := List.reverse_prefix.2 (List.dropWhile_suffix p
      (l := (cs.dropWhile p).reverse))
    rw [List.reverse_reverse] at cut
    refine head?_dropWhile p cs c ?_
    rw [Option.mem_def] at first ⊢
    rw [← cut, List.head?_append, first, Option.some_or]
  · rw [List.getLast?_reverse]
    exact head?_dropWhile p (cs.dropWhile p).reverse

end TrimChars

/-- Whether no blank stands at either end of a text. -/
structure IsTrimmed (s : String) : Prop where
  /-- The first character is no blank. -/
  front : ∀ c ∈ s.toList.head?, isBlank c = false
  /-- The last character is no blank. -/
  back : ∀ c ∈ s.toList.getLast?, isBlank c = false

theorem isTrimmed_trim (s : String) : IsTrimmed (trim s) := by
  obtain ⟨front, back⟩ := trimChars_ends isBlank s.toList
  constructor <;> rwa [trim, String.toList_ofList]

/-- A character that is left by trimming was there before. -/
theorem mem_of_mem_trim {s : String} {c : Char} (h : c ∈ (trim s).toList) : c ∈ s.toList := by
  rw [trim, String.toList_ofList, trimChars, List.mem_reverse] at h
  have kept := (List.dropWhile_suffix isBlank).subset h
  exact (List.dropWhile_suffix isBlank).subset (List.mem_reverse.1 kept)

theorem trim_eq_empty {s : String} (blank : ∀ c ∈ s.toList, isBlank c = true) : trim s = "" := by
  rw [trim, trimChars_eq_nil blank, String.ofList_nil]

/-- **Blanks around a text are taken away.** -/
theorem trim_padded {before s after : String} (trimmed : IsTrimmed s) (nonempty : s ≠ "")
    (ahead : ∀ c ∈ before.toList, isBlank c = true)
    (behind : ∀ c ∈ after.toList, isBlank c = true) : trim (before ++ s ++ after) = s := by
  rw [trim, String.toList_append, String.toList_append,
    trimChars_padded (by simpa using nonempty) trimmed.front trimmed.back ahead behind,
    String.ofList_toList]

theorem trim_eq_self {s : String} (trimmed : IsTrimmed s) (nonempty : s ≠ "") : trim s = s := by
  have padded : trim ("" ++ s ++ "") = s := trim_padded trimmed nonempty (by simp) (by simp)
  rwa [String.empty_append, String.append_empty] at padded

/-! ### Cutting -/

/-- **Cutting undoes joining**, if there is something to be joined. -/
theorem pieces_intercalate {α : Type} [DecidableEq α] {separator : α}
    {items : List (List α)} (nonempty : items ≠ []) (whole : ∀ item ∈ items, separator ∉ item) :
    pieces (· == separator) ([separator].intercalate items) = items := by
  induction items with
  | nil => exact absurd rfl nonempty
  | cons first later ih =>
    obtain ⟨here, others⟩ := List.forall_mem_cons.1 whole
    have single : pieces (· == separator) first = [first] :=
      pieces_eq_singleton fun c member => by
        simpa using fun same : c = separator => here (same ▸ member)
    cases later with
    | nil => rw [List.intercalate_singleton, single]
    | cons second rest =>
      have cut := pieces_append_cons (p := (· == separator)) (beq_self_eq_true separator) first
        ([separator].intercalate (second :: rest))
      rw [List.intercalate_cons_cons, List.append_assoc, List.singleton_append, cut, single,
        ih (by simp) others]
      rfl

/-- A list that was written with separators is read again. -/
theorem splitAt_intercalate {separator : Char} {items : List String} (nonempty : items ≠ [])
    (whole : ∀ item ∈ items, separator ∉ item.toList) :
    splitAt separator ((String.singleton separator).intercalate items) = items := by
  rw [splitAt, String.toList_intercalate, String.toList_singleton,
    pieces_intercalate (by simpa using nonempty) (List.forall_mem_map.2 whole), List.map_map]
  simp

/-- No separator is left in an item. -/
theorem not_mem_of_mem_splitAt {separator : Char} {s item : String}
    (h : item ∈ splitAt separator s) : separator ∉ item.toList := by
  obtain ⟨piece, cut, rfl⟩ := List.mem_map.1 h
  rw [String.toList_ofList]
  intro member
  simpa using mem_pieces cut separator member

end CommandRouter
