import CommandRouter.Proofs.Calls
import CommandRouter.Proofs.Guild.Transparency
import CommandRouter.Proofs.Registry.Growth
import CommandRouter.Proofs.Separated

/-!
# Every trigger that can be typed runs a command

A prefix and a trigger are kept as they were given, and a line is resolved as it stands. A message
is cleaned first. So a full trigger runs a command only if cleaning leaves it alone: if it has no
blank, and none of the zero-width and control characters that are deleted. Some triggers that look
harmless are not of that kind, since many emojis are joined by a zero-width character. A line with
such a trigger resolves, and no message can hold it.

For all others the two paths agree. The message is a single word, its token is the lower case of the
full trigger, and the entry answers to it. So something is selected, at least at the level of the
entry, and its handler is run without arguments.

## Which prefix is meant

The prefix is the one that the entry has with the settings that are loaded for the message. Where
the cache agrees with the rows these are the settings that are stored for the guild.

## Main definitions

* `IsTypable` says that a text is a single word that cleaning leaves alone.

## Main results

* `clean_eq_self` is what cleaning does to such a text.
* `Registry.exists_resolve_eq` says that an entry is selected if one answers to the token.
* `Dispatcher.calls_respond` says which handler is run then.
* `Dispatcher.exists_call_of_isTypable` puts them together for messages.
-/

namespace CommandRouter

/-! ### Texts that can be typed -/

/-- Whether a text is a single word that cleaning leaves alone. -/
structure IsTypable (s : String) : Prop where
  /-- There is something to be typed. -/
  nonempty : s ≠ ""
  /-- There is no blank in it. -/
  unbroken : ∀ c ∈ s.toList, isBlank c = false
  /-- Nothing in it is deleted. -/
  visible : ∀ c ∈ s.toList, isDeleted c = false

theorem trimChars_eq_self {p : Char → Bool} {cs : List Char} (h : ∀ c ∈ cs, p c = false) :
    trimChars p cs = cs := by
  have kept (ds : List Char) (hds : ∀ d ∈ ds, p d = false) : ds.dropWhile p = ds :=
    dropWhile_eq_self fun d first => hds d (List.mem_of_mem_head? first)
  rw [trimChars, kept cs h, kept cs.reverse fun d hd => h d (List.mem_reverse.1 hd),
    List.reverse_reverse]

/-- **Cleaning leaves a text alone that can be typed.** -/
theorem clean_eq_self {s : String} (h : IsTypable s) : clean s = s := by
  have whole : s.toList.filter (fun c => !isDeleted c) = s.toList :=
    List.filter_eq_self.2 fun c hc => by simp [h.visible c hc]
  rw [clean, deleteInvisible, whole, String.ofList_toList, trim, trimChars_eq_self h.unbroken,
    String.ofList_toList]

namespace IsTypable

variable {s : String}

theorem firstToken_eq (h : IsTypable s) : firstToken s = lower s :=
  firstToken_eq_lower h.nonempty h.unbroken

/-- No arguments are typed with a single word. -/
theorem argumentsOf_direct (h : IsTypable s) (entry : Entry) :
    (Match.direct entry).argumentsOf s = [] := by
  rw [Match.argumentsOf, Match.typedArguments, words_eq_singleton h.nonempty h.unbroken]
  rfl

end IsTypable

/-! ### What is selected -/

/-- **Where an entry answers to the token something is selected**, at least at its level. -/
theorem Registry.exists_resolve_eq {registry : Registry} (wellKinded : registry.WellKinded)
    {context : Option Context} (strings : Context.GivesStrings context) {line : String}
    (nonempty : firstToken line ≠ "") {entry : Entry} (registered : entry ∈ registry.entries)
    (answersTo : entry.AnswersTo context (firstToken line)) :
    ∃ winner, registry.resolve line context = .ok (some winner) ∧ winner ∈ registry.entries ∧
      winner.AtLeast entry := by
  obtain ⟨found, resolved, known⟩ := yields_resolve wellKinded strings line
  have kinds := wellKinded.entries entry registered
  have answers := Entry.answers_of_answersTo kinds.triggers answersTo
  have searched := resolved
  rw [resolve_eq_search, if_neg (by simpa using nonempty)] at searched
  have passes : entry ∈ candidates (fun entry => entry.answers context (.text (firstToken line)))
      registry.entries := mem_candidates_iff.2 ⟨registered, answers⟩
  cases found with
  | none =>
    rw [(search_eq_none_iff.1 searched).2] at passes
    cases passes
  | some winner =>
    exact ⟨winner, resolved, known winner rfl, (atLeast_of_search searched).2 entry passes⟩

namespace Dispatcher

/-! ### What is run -/

/-- **The handler of the entry that a line selects is run** if the message is of a guild. -/
theorem calls_respond {dispatcher : Dispatcher} {message : Message} {line : String}
    {guild : Option GuildSettings} {winner : Entry}
    (resolved : dispatcher.registry.resolve line (some ⟨some message, guild.map .settled⟩) =
      .ok (some winner))
    (inside : message.guild.isSome = true) (repository : GuildRepository) :
    (dispatcher.respond message line guild repository).events.filterMap Event.call? =
      [callOf (.direct winner) line guild message] := by
  have found : dispatcher.registry.resolveWithAlias line
      (some ⟨some message, guild.map .settled⟩) (guild.map .settled) =
        .ok (some (.direct winner)) := by
    rw [Registry.resolveWithAlias, resolved, ok_bind]
    rfl
  have allowed : ¬(winner.command.guildOnly && message.guild.isNone) = true := by
    rw [Option.isSome_iff_ne_none] at inside
    simp [inside]
  have rest : dispatcher.respond message line guild repository =
      dispatcher.execute (.direct winner) line guild message repository := by
    rw [respond, found, Action.run_ofExcept_ok_bind]
    exact congrFun (if_neg allowed) repository
  rw [rest, calls_execute]

/-- Where the cache agrees with the rows, what is loaded for a message is what is stored. -/
theorem loadGuild_of_steady {dispatcher : Dispatcher} (loads : dispatcher.loadsGuilds = true)
    {message : Message} {id : String} (inside : message.guild = some (.ok id))
    {repository : GuildRepository} {store : GuildStore} {span clock : Int}
    (steady : repository.Steady store span clock) {settings : Option GuildSettings}
    (stored : store.settings id = .ok settings) :
    (dispatcher.loadGuild (.int clock) message repository).result = .ok settings := by
  have fetched : (GuildRepository.fetch (.int clock) (.text id) repository).result =
      .ok settings := (steady.fetch id).1.trans stored
  rw [loadGuild_eq_recover loads inside, Action.run_recover_of_ok fetched, fetched]

/-- **Every full trigger that can be typed runs a command.** In a guild a message that is the prefix
of an entry and one of its triggers runs one handler, without arguments: that of an entry which is
at least of the same level. That holds for the prefix that the entry has with the settings that are
loaded for the message, which are those that are stored where the cache agrees with the rows. -/
theorem exists_call_of_isTypable (dispatcher : Dispatcher) (repository : GuildRepository)
    (table : dispatcher.registry.Reached) (cache : repository.Reached)
    (store : repository.source.store.Uninterrupted) (now : Value)
    {message : Message} (person : message.author = .person) {id : String}
    (inside : message.guild = some (.ok id)) :
    ∃ guild, (dispatcher.loadGuild now message repository).result = .ok guild ∧
      (∀ store span clock settings, dispatcher.loadsGuilds = true → now = .int clock →
        repository.Steady store span clock → store.settings id = .ok settings → guild = settings) ∧
      ∀ entry ∈ dispatcher.registry.entries, ∀ leading trigger,
        entry.prefixIn (some ⟨some message, guild.map .settled⟩) = .ok (.text leading) →
        .text trigger ∈ entry.triggers → message.content = leading ++ trigger →
        IsTypable message.content →
          ∃ winner ∈ dispatcher.registry.entries, winner.AtLeast entry ∧
            (dispatcher.handle now message repository).events.filterMap Event.call? =
              [⟨winner.command.handler.name, message, [], guild⟩] := by
  have named : ∀ guild ∈ message.guild, ∃ id, guild = .ok id := by
    rintro _ hguild
    exact ⟨id, (Option.some.inj (inside.symm.trans hguild)).symm⟩
  obtain ⟨events, repository', guild, loaded, -, kinds⟩ :=
    exists_loadGuild_eq dispatcher now named cache.wellKinded store
  refine ⟨guild, by rw [loaded], ?_, ?_⟩
  · rintro store span clock settings loads rfl steady stored
    have same := loadGuild_of_steady loads inside steady stored
    rw [loaded] at same
    exact Except.ok.inj same
  · intro entry registered leading trigger prefixed held content typable
    have answersTo : entry.AnswersTo (some ⟨some message, guild.map .settled⟩)
        (firstToken message.content) := by
      rw [typable.firstToken_eq, content]
      exact ⟨.text leading, prefixed, .text trigger, held, rfl⟩
    have nonempty : firstToken message.content ≠ "" := by
      rw [typable.firstToken_eq, Ne, lower_eq_empty_iff]
      exact typable.nonempty
    obtain ⟨winner, resolved, known, atLeast⟩ := Registry.exists_resolve_eq table.wellKinded
      (Context.givesStrings_settled kinds (some message)) nonempty registered answersTo
    refine ⟨winner, known, atLeast, ?_⟩
    have looked : message.author = .person ∧ ¬(clean message.content).isEmpty := by
      rw [clean_eq_self typable, String.isEmpty_iff]
      exact ⟨person, typable.nonempty⟩
    have before := calls_loadGuild dispatcher now message repository
    rw [loaded] at before
    rw [handle, if_pos looked, clean_eq_self typable, handleLine_eq,
      Action.run_bind_of_eq_ok loaded, List.filterMap_append, before,
      calls_respond resolved (by rw [inside]; rfl), List.nil_append, callOf,
      typable.argumentsOf_direct winner]
    rfl

/-- A store in which one guild has a prefix of its own. -/
def questioningStore : GuildStore :=
  ⟨.inMemory, .flat, Rows.put .empty "7"
    ⟨[(.text "id", .text "7"), (.text "prefixes", .dict [(.text "Utility", .text "?")])]⟩⟩

/-- The settings of that guild. -/
def questioning : GuildSettings := ⟨.text "7", .ofList [(.text "utility", .text "?")], .empty⟩

/-- The dispatcher of a single command. -/
def steadyDispatcher : Dispatcher :=
  ⟨(Roster.after (.create .empty) Roster.steadyHistory).registry, true, []⟩

/-- A message with the prefix of the guild and the trigger of the command. -/
def questioningMessage : Message := ⟨.person, "?ping", some (.ok "7"), .working⟩

/-- The prefix that is stored for the guild is the one that has to be typed. -/
theorem exists_call_of_isTypable_questioning :
    let repository := (Session.start questioningStore 300 0).repository
    steadyDispatcher.registry.Reached ∧ repository.Reached ∧
      repository.source.store.Uninterrupted ∧
      IsTypable questioningMessage.content ∧
      (steadyDispatcher.loadGuild (.int 0) questioningMessage repository).result =
        .ok (some questioning) ∧
      ∃ winner ∈ steadyDispatcher.registry.entries, winner.AtLeast Roster.steadyEntry ∧
        (steadyDispatcher.handle (.int 0) questioningMessage repository).events.filterMap
            Event.call? =
          [⟨winner.command.handler.name, questioningMessage, [], some questioning⟩] := by
  intro repository
  have table : steadyDispatcher.registry.Reached := by
    refine ⟨Roster.steadyHistory, ?_, rfl⟩
    simp only [Roster.steadyHistory, List.forall_mem_cons]
    refine ⟨⟨⟨_, rfl⟩, rfl⟩, ⟨⟨_, rfl⟩, rfl⟩, ⟨?_, by simp⟩, List.forall_mem_nil _⟩
    rintro command ⟨⟩
    exact ⟨⟨⟨_, rfl⟩, ⟨_, rfl⟩⟩, by simp [Command.plain]⟩
  have cache : repository.Reached := ⟨_, _, _, _, [], rfl⟩
  have store : repository.source.store.Uninterrupted :=
    Store.uninterrupted_ofEngine .inMemory questioningStore.rows (List.forall_mem_nil _)
  have typable : IsTypable questioningMessage.content := by
    have each : (questioningMessage.content.toList.all fun c =>
        isBlank c == false && isDeleted c == false) = true := by
      decide +kernel
    simp only [List.all_eq_true, Bool.and_eq_true, beq_iff_eq] at each
    exact ⟨by decide +kernel, fun c hc => (each c hc).1, fun c hc => (each c hc).2⟩
  have person : questioningMessage.author = .person := rfl
  have inside : questioningMessage.guild = some (.ok "7") := rfl
  have stored : questioningStore.settings "7" = .ok (some questioning) := rfl
  obtain ⟨guild, loaded, current, runs⟩ := exists_call_of_isTypable steadyDispatcher repository
    table cache store (.int 0) person inside
  have steady : repository.Steady questioningStore 300 0 :=
    (Session.alike_start questioningStore 0 300 300).left
  obtain rfl := current questioningStore 300 0 _ rfl rfl steady stored
  refine ⟨table, cache, store, typable, loaded, ?_⟩
  have registered : Roster.steadyEntry ∈ steadyDispatcher.registry.entries :=
    List.mem_singleton.2 rfl
  exact runs Roster.steadyEntry registered "?" "ping" rfl (List.mem_singleton.2 rfl) rfl typable

/-- A command whose trigger is an emoji of two parts, which a zero-width character joins. -/
def joinedHistory : List Roster.Operation := [
  .addCategory (.ofTexts "Utility" "!"),
  .register (some (.plain 0 "astronaut" "Utility" ["👩\u200D🚀"])) none]

/-- The entry of that command. -/
def joinedEntry : Entry :=
  ⟨.plain 0 "astronaut" "Utility" ["👩\u200D🚀"], .ofTexts "Utility" "!", [.text "👩\u200D🚀"]⟩

/-- A message with the prefix and the trigger of the command. -/
def joinedMessage : Message := ⟨.person, "!👩\u200D🚀", some (.ok "7"), .working⟩

/-- A trigger without blanks need not run a command: its line resolves, but a message loses the
character that joins the two parts. -/
theorem not_called_joined :
    let registry := (Roster.after (.create .empty) joinedHistory).registry
    let repository := (Session.start .empty 300 0).repository
    joinedEntry ∈ registry.entries ∧ joinedEntry.command.prefixRule = none ∧
      (loadGuild ⟨registry, true, []⟩ (.int 0) joinedMessage repository).result = .ok none ∧
      joinedEntry.prefixIn (some ⟨some joinedMessage, none⟩) = .ok (.text "!") ∧
      .text "👩\u200D🚀" ∈ joinedEntry.triggers ∧
      joinedMessage.content = "!" ++ "👩\u200D🚀" ∧ joinedMessage.content ≠ "" ∧
      (∀ c ∈ joinedMessage.content.toList, isBlank c = false) ∧
      registry.resolve joinedMessage.content (some ⟨some joinedMessage, none⟩) =
        .ok (some joinedEntry) ∧
      (handle ⟨registry, true, []⟩ (.int 0) joinedMessage repository).events.filterMap Event.call? =
        [] := by
  intro registry repository
  have entries : registry.entries = [joinedEntry] := rfl
  have loaded : (loadGuild ⟨registry, true, []⟩ (.int 0) joinedMessage repository).result =
      .ok none :=
    loadGuild_of_steady rfl rfl (Session.alike_start .empty 0 300 300).left rfl
  have unbroken : (joinedMessage.content.toList.all fun c => isBlank c == false) = true := by
    decide +kernel
  have selects : (registry.resolve joinedMessage.content
      (some ⟨some joinedMessage, none⟩)).toOption.join.isSome = true := by
    decide +kernel
  have uncalled : ((handle ⟨registry, true, []⟩ (.int 0) joinedMessage repository).events.filterMap
      Event.call?).isEmpty = true := by
    decide +kernel
  obtain ⟨found, resolved⟩ : ∃ found,
      registry.resolve joinedMessage.content (some ⟨some joinedMessage, none⟩) =
        .ok (some found) := by
    revert selects
    generalize registry.resolve joinedMessage.content (some ⟨some joinedMessage, none⟩) = result
    rcases result with fault | (_ | found) <;> simp [Except.toOption]
  have known := (Registry.answers_of_resolve resolved).1
  rw [entries, List.mem_singleton] at known
  rw [known] at resolved
  exact ⟨List.mem_singleton.2 rfl, rfl, loaded, rfl, List.mem_singleton.2 rfl, by decide +kernel,
    by decide +kernel, by simpa only [List.all_eq_true, beq_iff_eq] using unbroken, resolved,
    List.isEmpty_iff.1 uncalled⟩

end Dispatcher

end CommandRouter
