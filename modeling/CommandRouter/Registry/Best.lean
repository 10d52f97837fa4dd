import CommandRouter.Priority

/-!
# The best of several candidates

Among candidates that match the same line the one with the highest priority wins, and the first
one among equals.

## Main definitions

* `best` picks the first element of highest priority.

## Main results

* `best_eq_some_iff` describes the winner by its place in the list: everything before it has a
  lower priority, and nothing after it has a higher one.
-/

namespace CommandRouter

variable {α : Type}

/-- The first of the elements with the highest priority. -/
def best (priority : α → Priority) : List α → Option α
  | [] => none
  | a :: rest =>
    match best priority rest with
    | none => some a
    | some b => if (priority b).exceeds (priority a) then some b else some a

/-- The element at the end of `before` wins: it exceeds everything before it, and nothing after
it exceeds it. -/
def WinsBetween (priority : α → Priority) (before : List α) (a : α) (after : List α) : Prop :=
  (∀ b ∈ before, (priority b).rank < (priority a).rank) ∧
    ∀ b ∈ after, (priority b).rank ≤ (priority a).rank

@[simp] theorem best_nil (priority : α → Priority) : best priority [] = none := rfl

@[simp] theorem best_singleton (priority : α → Priority) (a : α) :
    best priority [a] = some a := rfl

/-- There is a winner exactly if there is a candidate. -/
@[simp] theorem best_eq_none_iff {priority : α → Priority} {l : List α} :
    best priority l = none ↔ l = [] := by
  cases l with
  | nil => simp
  | cons a rest =>
    rw [best]
    cases best priority rest with
    | none => simp
    | some b =>
      simp only [reduceCtorEq, iff_false]
      split <;> simp

theorem exists_winsBetween_of_best {priority : α → Priority} {l : List α} {a : α}
    (h : best priority l = some a) :
    ∃ before after, l = before ++ a :: after ∧ WinsBetween priority before a after := by
  induction l generalizing a with
  | nil => cases h
  | cons head rest ih =>
    rw [best] at h
    cases found : best priority rest with
    | none =>
      rw [found] at h
      cases h
      rw [best_eq_none_iff.1 found]
      exact ⟨[], [], rfl, by simp [WinsBetween]⟩
    | some b =>
      rw [found] at h
      obtain ⟨before, after, rfl, earlier, later⟩ := ih found
      by_cases exceeds : (priority b).exceeds (priority head) = true
      · simp only [if_pos exceeds, Option.some.injEq] at h
        subst h
        refine ⟨head :: before, after, rfl, ?_, later⟩
        intro c hc
        rcases List.mem_cons.1 hc with rfl | hc
        · simpa [Priority.exceeds] using exceeds
        · exact earlier c hc
      · simp only [if_neg exceeds, Option.some.injEq] at h
        subst h
        have bound : (priority b).rank ≤ (priority head).rank := by
          simpa [Priority.exceeds] using exceeds
        refine ⟨[], before ++ b :: after, rfl, by simp, ?_⟩
        intro c hc
        rcases List.mem_append.1 hc with hc | hc
        · exact Nat.le_trans (Nat.le_of_lt (earlier c hc)) bound
        · rcases List.mem_cons.1 hc with rfl | hc
          · exact bound
          · exact Nat.le_trans (later c hc) bound

/-- A list has at most one winning place, so a winning place determines the winner. -/
theorem best_eq_of_winsBetween {priority : α → Priority} {before after : List α} {a : α}
    (h : WinsBetween priority before a after) : best priority (before ++ a :: after) = some a := by
  induction before with
  | nil =>
    rw [List.nil_append, best]
    cases found : best priority after with
    | none => rfl
    | some b =>
      obtain ⟨earlier, later, rfl, _⟩ := exists_winsBetween_of_best found
      have bound := h.2 b (by simp)
      simp [Priority.exceeds, Nat.not_lt.2 bound]
  | cons head rest ih =>
    rw [List.cons_append, best, ih ⟨fun b hb => h.1 b (by simp [hb]), h.2⟩]
    have lower := h.1 head (by simp)
    simp [Priority.exceeds, lower]

/-- The winner is the element in a winning place. -/
theorem best_eq_some_iff {priority : α → Priority} {l : List α} {a : α} :
    best priority l = some a ↔
      ∃ before after, l = before ++ a :: after ∧ WinsBetween priority before a after := by
  refine ⟨exists_winsBetween_of_best, ?_⟩
  rintro ⟨before, after, rfl, wins⟩
  exact best_eq_of_winsBetween wins

end CommandRouter
