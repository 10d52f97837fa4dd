import CommandRouter.Proofs.Registry.Search
import CommandRouter.Proofs.Registry.Spelling

/-!
# What a later registration changes

Commands may be registered while the router is running. A line that selected an entry before then
selects the same entry afterwards, or the new one. The new one is selected only if it is above the
old one: it stands last, and among equals the first one wins. In particular no line that selected
something comes to select nothing.

That two entries answer to one token takes a guild that changes a prefix, or a command that chooses
its own. Where neither is the case a token is answered by its owner alone, which has no rival in the
new entry whatever their priorities are, because the two are apart.

## What is asked of the new entry

A history may have brought in anything, since what was selected before shows that the old entries
can be tested. The new entry is tested for the first time. It has to be well-kinded, and its prefix
has to be a string in the context, or else the test would end with a fault and the line with it.

## Main definitions

* `Entry.AnswersTo` says that a token is one of the triggers behind the prefix of a context.

## Main results

* `Registry.resolve_append` is the resolution with one more entry, and
  `Registry.resolve_append_of_apart` the one where prefixes are those that were compared.
* `Roster.resolve_register` puts them together after any history.
-/

namespace CommandRouter

namespace Entry

/-- Whether a token is, in lower case, a trigger of an entry behind the prefix that it has in a
context. -/
def AnswersTo (entry : Entry) (context : Option Context) (token : String) : Prop :=
  ∃ leading, entry.prefixIn context = .ok leading ∧
    ∃ trigger ∈ entry.triggers, (leading.add trigger >>= Value.lowered) = .ok (.text token)

theorem answersTo_of_answers {entry : Entry} {context : Option Context} {token : String}
    (h : entry.answers context (.text token) = .ok true) : entry.AnswersTo context token := by
  obtain ⟨leading, hleading, h⟩ := bind_eq_ok_iff.1 h
  obtain ⟨trigger, htrigger, full, summed, same⟩ := exists_of_isFullTrigger h
  rw [Value.sameKey_eq_true_iff (Value.isString_text token)] at same
  exact ⟨leading, hleading, trigger, htrigger, by rw [summed, same]⟩

/-- An entry whose triggers are strings answers to every token that is one of them. -/
theorem answers_of_answersTo {entry : Entry}
    (strings : ∀ trigger ∈ entry.triggers, trigger.IsString) {context : Option Context}
    {token : String} (h : entry.AnswersTo context token) :
    entry.answers context (.text token) = .ok true := by
  obtain ⟨leading, hleading, trigger, htrigger, summed⟩ := h
  obtain ⟨sum, added, low⟩ := bind_eq_ok_iff.1 summed
  obtain ⟨found, tested, hfound⟩ := yields_isFullTrigger_iff (Value.isString_text token)
    (Value.isString_of_add_lowered added low).1 strings
  rw [answers, hleading, ok_bind, tested, hfound.2 ⟨trigger, htrigger, summed⟩]

/-- Two entries that are apart, and have the prefixes that were compared, answer to no token in
common. -/
theorem Apart.not_answersTo {a b : Entry} (apart : a.Apart b)
    (hfollows : a.command.prefixRule = none) (hfollows' : b.command.prefixRule = none)
    {context : Option Context} (unguilded : ∀ c ∈ context, c.guild = none) {token : String}
    (h : a.AnswersTo context token) : ¬b.AnswersTo context token := by
  rintro ⟨leading', hleading', t, ht, hfull'⟩
  obtain ⟨leading, hleading, s, hs, hfull⟩ := h
  rw [prefixIn_eq_defaultPrefix hfollows unguilded] at hleading
  rw [prefixIn_eq_defaultPrefix hfollows' unguilded] at hleading'
  cases hleading
  cases hleading'
  obtain ⟨x, y, hx, hy, differ⟩ := apart s hs t ht
  exact differ (Except.ok.inj ((hx.symm.trans hfull).trans (hfull'.symm.trans hy)))

end Entry

namespace Registry

variable {registry grown : Registry} {entry found : Entry} {context : Option Context}
  {line : String}

/-- What is selected is an entry of the table that answers to the token. -/
theorem answers_of_resolve (h : registry.resolve line context = .ok (some found)) :
    found ∈ registry.entries ∧ found.answers context (.text (firstToken line)) = .ok true := by
  rw [resolve_eq_search] at h
  split at h
  · cases h
  · exact mem_candidates_iff.1 (atLeast_of_search h).1

/-- **One more entry takes a line over only if it is above the entry that had it.** -/
theorem resolve_append (entries : grown.entries = registry.entries ++ [entry])
    (kinds : entry.WellKinded) (leading : Yields (entry.prefixIn context) Value.IsString)
    (h : registry.resolve line context = .ok (some found)) :
    ∃ now, grown.resolve line context = .ok (some now) ∧
      (now = found ∨
        now = entry ∧ entry.Outranks found ∧ entry.AnswersTo context (firstToken line)) := by
  rw [resolve_eq_search] at h ⊢
  split at h
  · cases h
  rename_i nonempty
  rw [if_neg nonempty, entries]
  obtain ⟨passes, tested, -⟩ : Yields (entry.answers context (.text (firstToken line))) _ :=
    leading.bind fun _ hstring => yields_isFullTrigger hstring _ kinds.triggers
  obtain ⟨now, searched, who⟩ :=
    search_append_singleton h tested kinds.command.definition.priority
  refine ⟨now, searched, who.imp_right ?_⟩
  rintro ⟨rfl, isNew, outranks⟩
  exact ⟨isNew, outranks, Entry.answersTo_of_answers tested⟩

/-- **Where prefixes are those that were compared, one more entry changes nothing** about the lines
that selected something. -/
theorem resolve_append_of_apart (entries : grown.entries = registry.entries ++ [entry])
    (kinds : entry.WellKinded) (apart : ∀ other ∈ registry.entries, entry.Apart other)
    (follows : ∀ other ∈ grown.entries, other.command.prefixRule = none)
    (h : registry.resolve line none = .ok (some found)) :
    grown.resolve line none = .ok (some found) := by
  have unguilded : ∀ c ∈ (none : Option Context), c.guild = none := by simp
  have strings : Context.GivesStrings none := by
    rintro context ⟨⟩
  have leading := kinds.yields_prefixIn strings
  rw [entries, List.forall_mem_append, List.forall_mem_singleton] at follows
  obtain ⟨registered, answers⟩ := answers_of_resolve h
  obtain ⟨now, resolved, rfl | ⟨-, -, taken⟩⟩ := resolve_append entries kinds leading h
  · exact resolved
  · have owned : found.AnswersTo none (firstToken line) := Entry.answersTo_of_answers answers
    exact absurd owned ((apart found registered).not_answersTo follows.2
      (follows.1 found registered) unguilded taken)

end Registry

namespace Roster

/-- A registration that succeeds accepts the command and files it. -/
theorem accepted_of_register {command : Option Command} {given : Option Category}
    {roster : Roster} {entry : Entry} (h : (register command given roster).result = .ok entry) :
    roster.registry.entryFor command given = .ok entry ∧
      (register command given roster).state.registry = roster.registry.file entry := by
  rw [run_register] at h ⊢
  cases accepted : roster.registry.entryFor command given with
  | error fault =>
    rw [accepted] at h
    cases h
  | ok other =>
    rw [accepted] at h
    cases h
    exact ⟨rfl, rfl⟩

/-- **A later registration is conservative.** A line that selected an entry selects the same one
afterwards, or the new one, which is then above it and answers to the token. Without a context, and
if no command chooses its prefix, it selects the same one. -/
theorem resolve_register (categories : Categories) (history : List Operation)
    (command : Option Command) (given : Option Category) {entry : Entry}
    (registered :
      (register command given (after (create categories) history)).result = .ok entry)
    (kinds : entry.WellKinded) :
    let registry := (after (create categories) history).registry
    let grown := (register command given (after (create categories) history)).state.registry
    (∀ line context, Yields (entry.prefixIn context) Value.IsString → ∀ found,
        registry.resolve line context = .ok (some found) →
          ∃ now, grown.resolve line context = .ok (some now) ∧
            (now = found ∨
              now = entry ∧ entry.Outranks found ∧ entry.AnswersTo context (firstToken line))) ∧
      ((∀ other ∈ grown.entries, other.command.prefixRule = none) → ∀ line found,
        registry.resolve line none = .ok (some found) →
          grown.resolve line none = .ok (some found)) := by
  intro registry grown
  have start : (create categories).registry.Consistent := Registry.consistent_empty categories
  have consistent : registry.Consistent := (consistent_after start history).1
  obtain ⟨accepted, filed⟩ := accepted_of_register registered
  have entries : grown.entries = registry.entries ++ [entry] := by
    rw [show grown = registry.file entry from filed]
    exact Registry.entries_file (Registry.get?_filingKey_of_entryFor consistent accepted)
  have apart := Registry.apart_of_entryFor accepted
  refine ⟨fun line context leading found h => ?_, fun follows line found h => ?_⟩
  · exact Registry.resolve_append entries kinds leading h
  · exact Registry.resolve_append_of_apart entries kinds apart follows h

/-- A command in one of two categories. -/
def steadyHistory : List Operation := [
  .addCategory (.ofTexts "Utility" "!"),
  .addCategory (.ofTexts "Fun" "?"),
  .register (some (.plain 0 "ping" "Utility" ["ping"])) none]

/-- The entry of that command. -/
def steadyEntry : Entry :=
  ⟨.plain 0 "ping" "Utility" ["ping"], .ofTexts "Utility" "!", [.text "ping"]⟩

/-- A command in the other category with the same trigger and a higher level. -/
def risingCommand : Command :=
  let plain := Command.plain 1 "pong" "Fun" ["ping"]
  { plain with definition := { plain.definition with priority := .level .high } }

/-- The entry of that command. -/
def risingEntry : Entry := ⟨risingCommand, .ofTexts "Fun" "?", [.text "ping"]⟩

/-- A guild that gives the second category the prefix of the first one. -/
def mergedContext : Option Context :=
  some ⟨none, some (.settled (.normalized (.text "1") (.ofList [(.text "fun", .text "!")]) .empty))⟩

/-- The later command takes a line over in a guild that merges two prefixes, and nowhere else. -/
theorem resolve_register_merged :
    let registry := (after (create .empty) steadyHistory).registry
    let registering := register (some risingCommand) none (after (create .empty) steadyHistory)
    registering.result = .ok risingEntry ∧ risingEntry.WellKinded ∧
      registry.resolve "!ping" mergedContext = .ok (some steadyEntry) ∧
      (∃ now, registering.state.registry.resolve "!ping" mergedContext = .ok (some now) ∧
        now ≠ steadyEntry ∧ now = risingEntry ∧ risingEntry.Outranks steadyEntry ∧
        risingEntry.AnswersTo mergedContext "!ping") ∧
      registry.resolve "!PING 1" none = .ok (some steadyEntry) ∧
      registering.state.registry.resolve "!PING 1" none = .ok (some steadyEntry) := by
  intro registry registering
  have registered : registering.result = .ok risingEntry := rfl
  have kinds : risingEntry.WellKinded :=
    ⟨⟨⟨⟨_, rfl⟩, ⟨_, rfl⟩⟩, by simp [risingEntry, risingCommand, Command.plain]⟩,
      ⟨⟨_, rfl⟩, rfl⟩, by simp [risingEntry]⟩
  obtain ⟨conservative, unchanged⟩ :=
    resolve_register .empty steadyHistory (some risingCommand) none registered kinds
  have before : registry.resolve "!ping" mergedContext = .ok (some steadyEntry) := rfl
  have before' : registry.resolve "!PING 1" none = .ok (some steadyEntry) := rfl
  have follows : ∀ other ∈ registering.state.registry.entries,
      other.command.prefixRule = none := by
    have entries : registering.state.registry.entries = [steadyEntry, risingEntry] := rfl
    simp [entries, steadyEntry, risingEntry, risingCommand, Command.plain]
  refine ⟨registered, kinds, before, ?_, before', unchanged follows _ _ before'⟩
  obtain ⟨now, resolved, who⟩ :=
    conservative "!ping" mergedContext ⟨.text "!", rfl, rfl⟩ steadyEntry before
  have taken : registering.state.registry.resolve "!ping" mergedContext = .ok (some risingEntry) :=
    rfl
  cases resolved.symm.trans taken
  have differ : risingEntry ≠ steadyEntry := fun same =>
    absurd (congrArg (fun entry => entry.command.instanceId) same) (by decide)
  exact ⟨_, taken, differ, who.resolve_left differ⟩

end Roster

end CommandRouter
