import CommandRouter.Proofs.LetterCase
import CommandRouter.Proofs.Registry.Registration
import CommandRouter.Text.Words

/-!
# No command is in the way of another

Priorities decide between commands that one token reaches. Where no guild changes a prefix and no
command chooses its own, they are never asked: a token reaches a command by one of its full
triggers, as these were compared when the commands were registered, and no full trigger has two
owners.

So a command is reached by each of its full triggers, in any case, with any blanks before it and
anything after it that starts with a blank. Two things can still be in the way. A full trigger with
a blank inside is never a single word, and the empty one is no word at all. That is asked of the
full trigger only, and not of what is typed: the lower case of a text has a blank exactly if the
text has one, whatever the case of its letters is.

## Main results

* `firstToken_append` finds the token of a line.
* `Registry.resolveToken_eq_of_holds` is the resolution of a token with a single owner.
* `Roster.resolve_spelling` is what follows for whole lines, after any history.
-/

namespace CommandRouter

/-! ### The first word -/

/-- The token of a line is its first word in lower case, whatever stands around it. -/
theorem firstToken_append {blanks word rest : String}
    (blank : ∀ c ∈ blanks.toList, isBlank c = true) (nonempty : word ≠ "")
    (unbroken : ∀ c ∈ word.toList, isBlank c = false)
    (ends : ∀ c ∈ rest.toList.head?, isBlank c = true) :
    firstToken (blanks ++ word ++ rest) = lower word := by
  have found : words (blanks ++ word ++ rest) = word :: words rest := by
    rw [words, String.toList_append, String.toList_append, List.append_assoc,
      wordChars_append_of_blank blank,
      wordChars_append_of_word (by simpa using nonempty) unbroken ends, List.map_cons,
      String.ofList_toList]
    rfl
  rw [firstToken, found]

/-- The token of a line of one word is the lower case of the line. -/
theorem firstToken_eq_lower {word : String} (nonempty : word ≠ "")
    (unbroken : ∀ c ∈ word.toList, isBlank c = false) : firstToken word = lower word := by
  rw [firstToken, words_eq_singleton nonempty unbroken]

/-! ### A single candidate -/

namespace Entry

/-- Without a guild, and without a prefix of its own, a command has the default prefix. -/
theorem prefixIn_eq_defaultPrefix {entry : Entry} (follows : entry.command.prefixRule = none)
    {context : Option Context} (unguilded : ∀ c ∈ context, c.guild = none) :
    entry.prefixIn context = .ok entry.defaultPrefix := by
  cases context with
  | none => simp [prefixIn, Command.prefixIn, follows, defaultPrefix]
  | some context =>
    simp [prefixIn, Command.prefixIn, follows, unguilded context rfl, Category.prefixIn,
      defaultPrefix]

/-- Without a guild, and without a prefix of its own, a command answers to its full triggers. -/
theorem answers_eq_owns {entry : Entry} (follows : entry.command.prefixRule = none)
    {context : Option Context} (unguilded : ∀ c ∈ context, c.guild = none) (token : Value) :
    entry.answers context token = entry.owns token := by
  rw [answers, prefixIn_eq_defaultPrefix follows unguilded, ok_bind, owns]

end Entry

namespace Registry

variable {registry : Registry}

/-- A single candidate is the best one, whatever its level is. -/
theorem bestOf_singleton {α : Type} {entry : α → Entry} {candidate : α} {level : Priority}
    (rated : (entry candidate).priority = .level level) :
    bestOf entry [candidate] = .ok (some candidate) := by
  rw [bestOf, List.mapM_cons, List.mapM_nil, rated]
  rfl

/-- **A token with a single owner selects it.** The priorities of the other entries do not
count. -/
theorem resolveToken_eq_of_holds (strings : registry.HasStrings) (consistent : registry.Consistent)
    (follows : ∀ entry ∈ registry.entries, entry.command.prefixRule = none)
    {context : Option Context} (unguilded : ∀ c ∈ context, c.guild = none)
    {entry : Entry} (registered : entry ∈ registry.entries) {level : Priority}
    (rated : entry.priority = .level level) {leading trigger token : Value}
    (summed : (leading.add trigger >>= Value.lowered) = .ok token)
    (held : entry.Holds leading trigger) :
    registry.resolveToken token context = .ok (some entry) := by
  have decided : ∀ other ∈ registry.entries, ∃ owned, other.answers context token = .ok owned ∧
      (owned = true ↔ other.Holds leading trigger) := by
    intro other hother
    rw [other.answers_eq_owns (follows other hother) unguilded]
    exact (strings.entries other hother).yields_owns summed
  obtain ⟨before, after, parts⟩ := List.append_of_mem registered
  have alone := consistent.alone parts held
  have here : entry.answers context token = .ok true := by
    obtain ⟨owned, found, iff⟩ := decided entry registered
    rw [found, iff.2 held]
  have elsewhere : ∀ other ∈ before ++ after, other.answers context token = .ok false := by
    intro other hother
    have known : other ∈ registry.entries := by
      rw [parts]
      rcases List.mem_append.1 hother with hbefore | hafter
      · exact List.mem_append_left _ hbefore
      · exact List.mem_append_right _ (List.mem_cons_of_mem _ hafter)
    obtain ⟨owned, found, iff⟩ := decided other known
    rw [found, Bool.eq_false_iff.2 fun owns => alone other hother (iff.1 owns)]
  have selected : selectWhere (fun entry => entry.answers context token) registry.entries =
      .ok [entry] := by
    rw [parts]
    exact selectWhere_eq_singleton here elsewhere
  rw [resolveToken, selected, ok_bind]
  exact bestOf_singleton rated

end Registry

namespace Roster

/-- **No command is in the way of another.** Where no command has a prefix of its own and no guild
changes one, each full trigger selects its command, however it is spelled and whatever stands around
it. -/
theorem resolve_spelling {history : List Operation}
    (operations : ∀ operation ∈ history, operation.HasStrings)
    (follows : ∀ entry ∈ (after (create .empty) history).registry.entries,
      entry.command.prefixRule = none)
    {context : Option Context} (unguilded : ∀ c ∈ context, c.guild = none)
    {entry : Entry} (registered : entry ∈ (after (create .empty) history).registry.entries)
    {level : Priority} (rated : entry.priority = .level level) {leading trigger : String}
    (hleading : entry.defaultPrefix = .text leading) (htrigger : .text trigger ∈ entry.triggers)
    (nonempty : leading ++ trigger ≠ "")
    (unbroken : ∀ c ∈ (leading ++ trigger).toList, isBlank c = false) {spelling : String}
    (same : lower spelling = lower (leading ++ trigger)) {blanks rest : String}
    (blank : ∀ c ∈ blanks.toList, isBlank c = true)
    (ends : ∀ c ∈ rest.toList.head?, isBlank c = true) :
    (after (create .empty) history).registry.resolve (blanks ++ spelling ++ rest) context =
      .ok (some entry) := by
  have spelled : spelling ≠ "" := by
    rwa [Ne, ← lower_eq_empty_iff, same, lower_eq_empty_iff]
  have single : ∀ c ∈ spelling.toList, isBlank c = false := by
    rw [← forall_mem_lower_not_isBlank_iff, same, forall_mem_lower_not_isBlank_iff]
    exact unbroken
  have token := firstToken_append blank spelled single ends
  have summed : ((Value.text leading).add (.text trigger) >>= Value.lowered) =
      .ok (.text (lower (leading ++ trigger))) := rfl
  have held : entry.Holds (.text leading) (.text trigger) :=
    ⟨.text trigger, htrigger, _, summed, Entry.fullTrigger_texts hleading trigger⟩
  have start : (create .empty).registry.Consistent := Registry.consistent_empty .empty
  have consistent := (consistent_after start history).1
  rw [Registry.resolve, token, same, if_neg (by simpa using nonempty)]
  exact Registry.resolveToken_eq_of_holds (hasStrings_after operations) consistent follows unguilded
    registered rated summed held

/-- Two commands under one prefix, the second of them with a trigger that ends in a final sigma. -/
def streetHistory : List Operation := [
  .addCategory (.ofTexts "Utility" "!"),
  .register (some (.plain 0 "way" "Utility" ["οδόσ"])) none,
  .register (some (.plain 1 "street" "Utility" ["οδός"])) none]

/-- The entry of the second command. -/
def streetEntry : Entry :=
  ⟨.plain 1 "street" "Utility" ["οδός"], .ofTexts "Utility" "!", [.text "οδός"]⟩

/-- In capitals a final sigma is spelled like any other. -/
theorem resolve_spelling_street :
    (∀ operation ∈ streetHistory, operation.HasStrings) ∧
      streetEntry ∈ (after (create .empty) streetHistory).registry.entries ∧
      lower "!ΟΔΌΣ" = lower ("!" ++ "οδός") ∧
      (after (create .empty) streetHistory).registry.resolve ("\u3000" ++ "!ΟΔΌΣ" ++ "\t7")
        (some ⟨none, none⟩) = .ok (some streetEntry) := by
  have operations : ∀ operation ∈ streetHistory, operation.HasStrings := by
    simp [streetHistory, Operation.HasStrings, Category.ofTexts]
  have entries : (after (create .empty) streetHistory).registry.entries =
      [⟨.plain 0 "way" "Utility" ["οδόσ"], .ofTexts "Utility" "!", [.text "οδόσ"]⟩, streetEntry] :=
    rfl
  have registered : streetEntry ∈ (after (create .empty) streetHistory).registry.entries := by
    simp [entries]
  have same : lower "!ΟΔΌΣ" = lower ("!" ++ "οδός") := by decide +kernel
  have follows : ∀ entry ∈ (after (create .empty) streetHistory).registry.entries,
      entry.command.prefixRule = none := by
    simp [entries, streetEntry, Command.plain]
  have unbroken : (("!" ++ "οδός").toList.all fun c => isBlank c == false) = true := by
    decide +kernel
  have blank : ("\u3000".toList.all isBlank) = true := by decide +kernel
  have ends : ("\t7".toList.head?.all isBlank) = true := by decide +kernel
  refine ⟨operations, registered, same, ?_⟩
  exact resolve_spelling operations follows (by simp) registered rfl rfl
    (List.mem_singleton.2 rfl) (by simp)
    (by simpa only [List.all_eq_true, beq_iff_eq] using unbroken) same
    (List.all_eq_true.1 blank) ((Option.all_eq_true isBlank _).1 ends)

end Roster

end CommandRouter
