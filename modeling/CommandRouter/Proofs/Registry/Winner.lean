import CommandRouter.Proofs.LetterCase
import CommandRouter.Proofs.Registry.Growth
import CommandRouter.Proofs.Registry.Kinds
import Mathlib.Data.List.Induction

/-!
# The entry that a line selects

Prefixes of a guild may make several entries answer to one token, and so may commands that choose
their prefix. Then the priorities decide, and among equals the order of registration does: the
winner is above all entries before it that answer as well, and no such entry after it is above it.

## Which prefix counts

A guild gives prefixes to the names of categories, and neither the key of the map nor the name of
the category has to be in lower case: what matters is that they are spelled alike in lower case. A
map may hold several such keys. The settings keep one of them, with the value that came last. If
that value is empty it takes the place of the others nevertheless, and the category keeps its
default prefix. The empty key is dropped, so a category without a name cannot be given a prefix.

A command that chooses its prefix is asked in the context of the line, so it counts as the prefix
that its rule gives there, in whatever way it was found.

## Main definitions

* `Spells` says that a key of a map gives to a name, and `Given` what the whole map gives to it.
* `Category.PrefixUnder` and `Entry.PrefixUnder` are the prefixes of categories and entries.
* `Registry.Wins` describes the winner by its place among the entries.

## Main results

* `GuildSettings.given_get?_lowerKeys` ties the look-up in the settings to the map they are made of.
* `Registry.exists_split_of_search` is the place of what the search finds.
* `Registry.resolve_wins` says which entry a line selects, in all contexts.
-/

namespace CommandRouter

/-! ### What a map of prefixes gives to a name -/

/-- Whether a key of a map stands for a name. -/
def Spells (key : Label) (name : String) : Prop :=
  key.isEmpty = false ∧ key.lowered = .text (lower name)

/-- What a map gives to a name: nothing, or the value of the last key that stands for it. -/
inductive Given (pairs : List (Label × Value)) (name : String) : Option Value → Prop
  /-- No key stands for the name. -/
  | nothing (unspelled : ∀ pair ∈ pairs, ¬Spells pair.1 name) : Given pairs name none
  /-- A key stands for the name, and none after it does. -/
  | last {before after : List (Label × Value)} {key : Label} {value : Value}
      (split : pairs = before ++ (key, value) :: after) (spells : Spells key name)
      (later : ∀ pair ∈ after, ¬Spells pair.1 name) : Given pairs name (some value)

/-- A further key that stands for something else gives nothing to the name. -/
theorem Given.append_singleton {pairs : List (Label × Value)} {name : String}
    {given : Option Value} (h : Given pairs name given) {pair : Label × Value}
    (other : ¬Spells pair.1 name) : Given (pairs ++ [pair]) name given := by
  cases h with
  | nothing unspelled =>
    exact .nothing (List.forall_mem_append.2 ⟨unspelled, List.forall_mem_singleton.2 other⟩)
  | @last before after key value split spells later =>
    have longer : pairs ++ [pair] = before ++ (key, value) :: (after ++ [pair]) := by simp [split]
    exact .last longer spells
      (List.forall_mem_append.2 ⟨later, List.forall_mem_singleton.2 other⟩)

namespace GuildSettings

/-- **The settings keep what the map gives.** The name is looked up in lower case, as the keys are
kept. -/
theorem given_get?_lowerKeys (table : Table Label Value) (name : String) :
    Given table.toList name ((lowerKeys table).get? (.text (lower name))) := by
  rw [lowerKeys]
  -- The induction is from the end of the map, where the key that counts is looked for.
  induction table.toList using List.reverseRecOn with
  | nil => exact .nothing (List.forall_mem_nil _)
  | append_singleton pairs pair ih =>
    rw [List.filter_append, List.map_append]
    by_cases empty : pair.1.isEmpty = true
    · have dropped : [pair].filter (fun entry => !entry.1.isEmpty) = [] := by simp [empty]
      rw [dropped, List.map_nil, List.append_nil]
      exact ih.append_singleton fun spells => Bool.noConfusion (empty.symm.trans spells.1)
    · have kept : [pair].filter (fun entry => !entry.1.isEmpty) = [pair] := by simp [empty]
      rw [kept, List.map_singleton, Table.ofList_append_singleton, Table.get?_insert]
      by_cases same : pair.1.lowered = .text (lower name)
      · rw [if_pos same]
        exact .last rfl ⟨Bool.eq_false_iff.2 empty, same⟩ (List.forall_mem_nil _)
      · rw [if_neg same]
        exact ih.append_singleton fun spells => same spells.2

end GuildSettings

/-! ### The prefix of an entry -/

/-- The prefix that a category has in a guild that was given a map of prefixes: the value for its
name, if there is one that is not empty, and else its default. -/
inductive Category.PrefixUnder (category : Category) (pairs : List (Label × Value)) : Value → Prop
  /-- The guild replaces the prefix. -/
  | replaced {name : String} {custom : Value} (named : category.name = .text name)
      (given : Given pairs name (some custom)) (present : custom.truthy = true) :
      PrefixUnder category pairs custom
  /-- The guild gives nothing, or something empty. -/
  | kept {name : String} {given : Option Value} (named : category.name = .text name)
      (h : Given pairs name given) (absent : ∀ custom ∈ given, custom.truthy = false) :
      PrefixUnder category pairs category.defaultPrefix

/-- The prefix that an entry has in a context whose guild, if it has settings, was given a map of
prefixes. -/
inductive Entry.PrefixUnder (entry : Entry) (pairs : List (Label × Value)) :
    Option Context → Value → Prop
  /-- The command chooses its prefix. -/
  | own {context : Option Context} {rule : PrefixRule} {leading : Value}
      (h : entry.command.prefixRule = some rule)
      (gives : rule context entry.category = .ok leading) : PrefixUnder entry pairs context leading
  /-- The command is used without a context. -/
  | anywhere (follows : entry.command.prefixRule = none) :
      PrefixUnder entry pairs none entry.defaultPrefix
  /-- The command is used where no guild has settings. -/
  | unguilded {message : Option Message} (follows : entry.command.prefixRule = none) :
      PrefixUnder entry pairs (some ⟨message, none⟩) entry.defaultPrefix
  /-- The command is used in a guild with settings. -/
  | guilded {message : Option Message} {settings : GuildSettings} {leading : Value}
      (follows : entry.command.prefixRule = none)
      (h : entry.category.PrefixUnder pairs leading) :
      PrefixUnder entry pairs (some ⟨message, some (.settled settings)⟩) leading

/-- The contexts of a line: none at all, one without a guild that has settings, and one with it. -/
def Context.around (message : Option Message) (settings : GuildSettings) : List (Option Context) :=
  [none, some ⟨message, none⟩, some ⟨message, some (.settled settings)⟩]

section Prefixes

variable {prefixes : Table Label Value} {message : Option Message} (id : Value)
  (aliases : Table Label Value)

theorem Category.WellKinded.exists_prefixIn {category : Category} (h : category.WellKinded)
    (prefixes : Table Label Value) :
    ∃ leading,
      category.prefixIn (some (.settled (.normalized id prefixes aliases))) = .ok leading ∧
        category.PrefixUnder prefixes.toList leading := by
  obtain ⟨name, named⟩ := h.name
  have given := GuildSettings.given_get?_lowerKeys prefixes name
  have custom : Guild.customPrefix? (.settled (.normalized id prefixes aliases))
      category.lowerName = .ok ((GuildSettings.lowerKeys prefixes).get? (.text (lower name))) := by
    rw [Category.lowerName, named]
    rfl
  rw [Category.prefixIn, custom, ok_bind]
  cases found : (GuildSettings.lowerKeys prefixes).get? (.text (lower name)) with
  | none =>
    rw [found] at given
    exact ⟨_, rfl, .kept named given (by simp)⟩
  | some custom =>
    rw [found] at given
    cases present : custom.truthy with
    | true => exact ⟨custom, by simp [present, pure, Except.pure], .replaced named given present⟩
    | false =>
      exact ⟨category.defaultPrefix, by simp [present, pure, Except.pure],
        .kept named given (by simp [present])⟩

/-- **Every entry has a prefix in every context**, and it is the one that the map says. -/
theorem Entry.WellKinded.exists_prefixIn {entry : Entry} (h : entry.WellKinded)
    (prefixes : Table Label Value) {context : Option Context}
    (place : context ∈ Context.around message (.normalized id prefixes aliases)) :
    ∃ leading, entry.prefixIn context = .ok leading ∧
      entry.PrefixUnder prefixes.toList context leading := by
  rw [Entry.prefixIn]
  unfold Command.prefixIn
  cases own : entry.command.prefixRule with
  | some rule =>
    obtain ⟨leading, gives, -⟩ := h.command.prefixRule rule own context entry.category
    exact ⟨leading, gives, .own own gives⟩
  | none =>
    simp only [Context.around, List.mem_cons, List.not_mem_nil, or_false] at place
    rcases place with rfl | rfl | rfl
    · exact ⟨_, rfl, .anywhere own⟩
    · exact ⟨_, rfl, .unguilded own⟩
    · obtain ⟨leading, hleading, under⟩ := h.category.exists_prefixIn id aliases prefixes
      exact ⟨leading, hleading, .guilded own under⟩

theorem Given.mem_values {table : Table Label Value} {name : String} {value : Value}
    (h : Given table.toList name (some value)) : value ∈ table.values := by
  cases h with
  | @last before after key value split _ _ =>
    have listed : (key, value) ∈ table.toList := by simp [split]
    exact List.mem_map.2 ⟨_, listed, rfl⟩

theorem Category.PrefixUnder.isString {category : Category} {leading : Value}
    (h : category.PrefixUnder prefixes.toList leading) (kinds : category.WellKinded)
    (strings : ∀ value ∈ prefixes.values, value.IsString) : leading.IsString := by
  cases h with
  | replaced _ given _ => exact strings leading given.mem_values
  | kept _ _ _ => exact kinds.defaultPrefix

theorem Context.givesStrings_around (strings : ∀ value ∈ prefixes.values, value.IsString)
    {context : Option Context}
    (place : context ∈ Context.around message (.normalized id prefixes aliases)) :
    GivesStrings context := by
  simp only [Context.around, List.mem_cons, List.not_mem_nil, or_false] at place
  rintro c hc category kinds
  rcases place with rfl | rfl | rfl
  · cases hc
  · cases hc
    exact .ok kinds.defaultPrefix
  · cases hc
    obtain ⟨leading, hleading, under⟩ := kinds.exists_prefixIn id aliases prefixes
    exact ⟨leading, hleading, under.isString kinds strings⟩

end Prefixes

/-! ### The winner among the entries -/

namespace Registry

/-- Whether an entry answers to a token and has the place of the winner: it is above the entries
before it that answer as well, and none after it is above it. -/
structure Wins (registry : Registry) (context : Option Context) (token : String)
    (winner : Entry) : Prop where
  /-- The winner answers. -/
  answers : winner.AnswersTo context token
  /-- The winner stands where the entries are split, and the rivals on either side are not above
  it. -/
  place : ∃ before after, registry.entries = before ++ winner :: after ∧
    (∀ rival ∈ before, rival.AnswersTo context token → winner.Outranks rival) ∧
      ∀ rival ∈ after, rival.AnswersTo context token → winner.AtLeast rival

/-- **What the search finds has the place of the winner.** -/
theorem exists_split_of_search {test : Entry → Except Fault Bool} {entries : List Entry}
    {found : Entry} (h : search test entries = .ok (some found)) :
    ∃ before after, entries = before ++ found :: after ∧ test found = .ok true ∧
      (∀ entry ∈ before, test entry = .ok true → found.Outranks entry) ∧
        ∀ entry ∈ after, test entry = .ok true → found.AtLeast entry := by
  obtain ⟨-, best⟩ := search_eq_ok_iff.1 h
  obtain ⟨earlier, later, level, split, rated, exceeds, bounded⟩ := bestOf_eq_some_iff.1 best
  have passes := (mem_candidates_iff.1 (atLeast_of_search h).1).2
  -- The place among the candidates is carried over to the entries that they were selected from.
  obtain ⟨front, back, rfl, rfl, rest⟩ := List.filter_eq_append_iff.1 split
  obtain ⟨between, after, rfl, failing, -, rfl⟩ := List.filter_eq_cons_iff.1 rest
  refine ⟨front ++ between, after, by simp, passes, fun entry hentry tested => ?_,
    fun entry hentry tested => ?_⟩
  · rcases List.mem_append.1 hentry with hentry | hentry
    · obtain ⟨less, hless, below⟩ := exceeds entry (mem_candidates_iff.2 ⟨hentry, tested⟩)
      exact ⟨level, less, rated, hless, below⟩
    · exact absurd (by simp [tested, Except.toOption]) (failing entry hentry)
  · obtain ⟨other, hother, bound⟩ := bounded entry (mem_candidates_iff.2 ⟨hentry, tested⟩)
    exact ⟨level, other, rated, hother, bound⟩

/-- A line without a token has nothing but blanks. -/
theorem firstToken_eq_empty_iff {line : String} :
    firstToken line = "" ↔ ∀ c ∈ line.toList, isBlank c = true := by
  rw [firstToken, words, ← wordChars_eq_nil_iff]
  cases split : wordChars line.toList with
  | nil => simp
  | cons word rest =>
    have nonempty : word ≠ [] := (mem_wordChars (split ▸ List.mem_cons_self)).1
    simp [nonempty]

variable {registry : Registry} {context : Option Context}

/-- Where all entries are well-kinded, an entry answers to a token exactly if its test says so. -/
theorem WellKinded.answers_iff (kinds : registry.WellKinded) {entry : Entry}
    (registered : entry ∈ registry.entries) {token : String} :
    entry.answers context (.text token) = .ok true ↔ entry.AnswersTo context token :=
  ⟨Entry.answersTo_of_answers, Entry.answers_of_answersTo (kinds.entries entry registered).triggers⟩

/-- **A line selects the winner of the entries that answer to its first word.** It selects nothing
exactly if it is blank or no entry answers. The prefix of an entry is the one that the map of the
guild gives, unless the command has a rule of its own for it. -/
theorem resolve_wins (kinds : registry.WellKinded) {prefixes : Table Label Value}
    {message : Option Message} (strings : ∀ value ∈ prefixes.values, value.IsString) (id : Value)
    (aliases : Table Label Value) (line : String)
    (place : context ∈ Context.around message (.normalized id prefixes aliases)) :
    (∃ found, registry.resolve line context = .ok found ∧
      (found = none ↔ (∀ c ∈ line.toList, isBlank c = true) ∨
        ∀ entry ∈ registry.entries, ¬entry.AnswersTo context (firstToken line)) ∧
      ∀ winner ∈ found, registry.Wins context (firstToken line) winner) ∧
    ∀ entry ∈ registry.entries, ∃ leading, entry.prefixIn context = .ok leading ∧
      entry.PrefixUnder prefixes.toList context leading := by
  refine ⟨?_, fun entry registered =>
    (kinds.entries entry registered).exists_prefixIn id aliases prefixes place⟩
  obtain ⟨found, resolved, -⟩ :=
    yields_resolve kinds (Context.givesStrings_around id aliases strings place) line
  refine ⟨found, resolved, ?_⟩
  rw [resolve_eq_search] at resolved
  split at resolved
  · rename_i empty
    cases resolved
    have blank := firstToken_eq_empty_iff.1 (String.isEmpty_iff.1 empty)
    exact ⟨iff_of_true rfl (.inl blank), by simp⟩
  rename_i nonempty
  have visible : ¬∀ c ∈ line.toList, isBlank c = true := fun blank =>
    nonempty (String.isEmpty_iff.2 (firstToken_eq_empty_iff.2 blank))
  refine ⟨?_, fun winner won => ?_⟩
  · rw [or_iff_right visible]
    constructor
    · rintro rfl entry registered answers
      obtain ⟨-, empty⟩ := search_eq_none_iff.1 resolved
      have passes := (kinds.answers_iff registered).2 answers
      have candidate : entry ∈ candidates
          (fun entry => entry.answers context (.text (firstToken line))) registry.entries :=
        mem_candidates_iff.2 ⟨registered, passes⟩
      rw [empty] at candidate
      cases candidate
    · intro unanswered
      refine Option.eq_none_iff_forall_not_mem.2 fun winner won => ?_
      cases won
      obtain ⟨registered, passes⟩ := mem_candidates_iff.1 (atLeast_of_search resolved).1
      exact unanswered winner registered (Entry.answersTo_of_answers passes)
  · cases won
    obtain ⟨before, after, split, passes, above, bound⟩ := exists_split_of_search resolved
    refine ⟨Entry.answersTo_of_answers passes, before, after, split, fun rival hrival answers => ?_,
      fun rival hrival answers => ?_⟩
    · have registered : rival ∈ registry.entries := by simp [split, hrival]
      exact above rival hrival ((kinds.answers_iff registered).2 answers)
    · have registered : rival ∈ registry.entries := by simp [split, hrival]
      exact bound rival hrival ((kinds.answers_iff registered).2 answers)

/-- Two commands with a common trigger, the later one of a higher level. -/
def contestedHistory : List Roster.Operation :=
  Roster.steadyHistory ++ [.register (some Roster.risingCommand) none]

theorem wellKinded_of_mem_contestedHistory :
    ∀ operation ∈ contestedHistory, operation.WellKinded := by
  have texts : ∀ name leading, (Category.ofTexts name leading).WellKinded :=
    fun name leading => ⟨⟨_, rfl⟩, rfl⟩
  have steady : (Command.plain 0 "ping" "Utility" ["ping"]).WellKinded :=
    ⟨⟨⟨_, rfl⟩, ⟨_, rfl⟩⟩, by simp [Command.plain]⟩
  have rising : Roster.risingCommand.WellKinded :=
    ⟨⟨⟨_, rfl⟩, ⟨_, rfl⟩⟩, by simp [Roster.risingCommand, Command.plain]⟩
  intro operation listed
  simp only [contestedHistory, Roster.steadyHistory, List.cons_append, List.nil_append,
    List.mem_cons, List.not_mem_nil, or_false] at listed
  rcases listed with rfl | rfl | rfl | rfl
  · exact texts _ _
  · exact texts _ _
  · exact ⟨by rintro _ ⟨⟩; exact steady, by simp⟩
  · exact ⟨by rintro _ ⟨⟩; exact rising, by simp⟩

/-- A map that names the second category twice, in different spellings. -/
def respelledPrefixes : Table Label Value :=
  .ofList [(.text "FUN", .text "?"), (.text "Fun", .text "!")]

/-- The context of a guild with that map. -/
def respelledContext : Option Context :=
  some ⟨none, some (.settled (.normalized (.text "1") respelledPrefixes .empty))⟩

/-- The value that came last merges the prefixes of the two categories, and the higher level wins.
Without the guild the first command is alone. -/
theorem resolve_wins_respelled :
    let registry := (Roster.after (.create .empty) contestedHistory).registry
    registry.WellKinded ∧ (∀ value ∈ respelledPrefixes.values, value.IsString) ∧
      respelledContext ∈ Context.around none (.normalized (.text "1") respelledPrefixes .empty) ∧
      none ∈ Context.around none (.normalized (.text "1") respelledPrefixes .empty) ∧
      registry.resolve "!PING 1" respelledContext = .ok (some Roster.risingEntry) ∧
      registry.Wins respelledContext "!ping" Roster.risingEntry ∧
      Roster.steadyEntry.AnswersTo respelledContext "!ping" ∧
      registry.Wins none "!ping" Roster.steadyEntry ∧
      Roster.risingEntry.PrefixUnder respelledPrefixes.toList respelledContext (.text "!") := by
  intro registry
  have kinds : registry.WellKinded :=
    Roster.wellKinded_after wellKinded_empty contestedHistory wellKinded_of_mem_contestedHistory
  have strings : ∀ value ∈ respelledPrefixes.values, value.IsString := by
    simp [respelledPrefixes, Table.ofList, Table.insert, Table.insertEntry, Table.toList,
      Table.empty]
  have guilded : respelledContext ∈
      Context.around none (.normalized (.text "1") respelledPrefixes .empty) := by
    simp [Context.around, respelledContext]
  have anywhere : none ∈
      Context.around none (.normalized (.text "1") respelledPrefixes .empty) := by
    simp [Context.around]
  have contested :
      registry.resolve "!PING 1" respelledContext = .ok (some Roster.risingEntry) := rfl
  have alone : registry.resolve "!PING 1" none = .ok (some Roster.steadyEntry) := rfl
  obtain ⟨⟨found, resolved, -, wins⟩, leads⟩ :=
    resolve_wins kinds strings (.text "1") .empty "!PING 1" guilded
  cases contested.symm.trans resolved
  obtain ⟨⟨found, resolved, -, wins'⟩, -⟩ :=
    resolve_wins kinds strings (.text "1") .empty "!PING 1" anywhere
  cases alone.symm.trans resolved
  refine ⟨kinds, strings, guilded, anywhere, contested, wins _ rfl, ?_, wins' _ rfl, ?_⟩
  · exact ⟨.text "!", rfl, .text "ping", by simp [Roster.steadyEntry], rfl⟩
  · obtain ⟨leading, given, under⟩ := leads Roster.risingEntry
      (by simp [show registry.entries = [Roster.steadyEntry, Roster.risingEntry] from rfl])
    cases given.symm.trans (rfl : _ = Except.ok (Value.text "!"))
    exact under

end Registry

end CommandRouter
