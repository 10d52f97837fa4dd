import CommandRouter.Proofs.Actions
import CommandRouter.Proofs.Results
import CommandRouter.Proofs.Strings
import CommandRouter.Registry.Roster
import CommandRouter.Table.Lemmas

/-!
# What may happen to a command table

A command table changes in three ways: a command is registered, a category is added or replaced, or
the definition of a registered command is changed under it. An operation that fails leaves the table
as it was, so a history is any list of operations, whether they succeed or not.

## The invariant

Two entries are apart if no full trigger of one is a full trigger of the other, in lower case.
Registration compares the new command with every entry, so a new entry is apart from all the others.
Nothing that happens later touches what was compared: replacing a category leaves the entries under
it with the category they were registered under, and changing a definition leaves the triggers that
were kept.

An entry is filed under its default prefix and its triggers. As a command has at least one trigger,
two commands filed under one key would share a full trigger. So a new entry never takes the place of
another one, and the table grows by one with each registration that succeeds.

## Main definitions

* `Roster.Operation` is one operation, and `Roster.perform` performs it.
* `Roster.after` is the roster that a history leaves, and `Roster.registered` lists the entries that
  its registrations returned.
* `Entry.Apart` says that two entries share no full trigger, and `Registry.Consistent` that any two
  entries of a table are apart and that each is filed where it belongs.

## Main results

* `Registry.entryFor_eq_ok_iff` says when a command is accepted.
* `Roster.consistent_after` is the invariant, for every history.
* `Roster.pairwise_apart_and_size_after` is what it is for.
-/

namespace CommandRouter

/-! ### Full triggers -/

namespace Entry

/-- A trigger of an entry behind its default prefix, in lower case, as it is compared when other
commands are registered. -/
def fullTrigger (entry : Entry) (trigger : Value) : Except Fault Value := do
  (← entry.defaultPrefix.add trigger).lowered

theorem fullTrigger_texts {entry : Entry} {leading : String}
    (h : entry.defaultPrefix = .text leading) (trigger : String) :
    entry.fullTrigger (.text trigger) = .ok (.text (lower (leading ++ trigger))) := by
  rw [fullTrigger, h]
  rfl

/-- A full trigger that can be compared is put together from strings. -/
theorem isString_of_fullTrigger {entry : Entry} {trigger full : Value}
    (h : entry.fullTrigger trigger = .ok full) :
    entry.defaultPrefix.IsString ∧ trigger.IsString ∧ full.IsString := by
  obtain ⟨sum, added, low⟩ := bind_eq_ok_iff.1 h
  obtain ⟨leading, later⟩ := Value.isString_of_add_lowered added low
  exact ⟨leading, later, (Value.isString_of_lowered low).2⟩

/-- Two entries share no full trigger: each of theirs can be lower-cased, and no two are equal. -/
def Apart (a b : Entry) : Prop :=
  ∀ s ∈ a.triggers, ∀ t ∈ b.triggers,
    ∃ x y, a.fullTrigger s = .ok x ∧ b.fullTrigger t = .ok y ∧ x ≠ y

theorem Apart.symm {a b : Entry} (h : a.Apart b) : b.Apart a := by
  intro t ht s hs
  obtain ⟨x, y, hx, hy, differ⟩ := h s hs t ht
  exact ⟨y, x, hy, hx, differ.symm⟩

/-- Whether two entries are apart is decided by their categories and by the triggers they keep. -/
theorem Apart.of_same {a b a' b' : Entry} (h : a.Apart b) (ha : a'.category = a.category)
    (hb : b'.category = b.category) (ka : a'.triggers = a.triggers)
    (kb : b'.triggers = b.triggers) : a'.Apart b' := by
  unfold Apart fullTrigger defaultPrefix at h ⊢
  rw [ha, hb, ka, kb]
  exact h

end Entry

/-! ### What a check tells -/

/-- A string is none of some full triggers exactly if all of them can be lower-cased and differ
from it. -/
theorem isFullTrigger_eq_false_iff {token leading : Value} {triggers : List Value} :
    isFullTrigger token leading triggers = .ok false ↔
      ∀ t ∈ triggers, ∃ full, (leading.add t >>= Value.lowered) = .ok full ∧
        token.sameKey full = false := by
  induction triggers with
  | nil => simp [isFullTrigger]
  | cons trigger later ih =>
    rw [isFullTrigger, List.forall_mem_cons, ← ih]
    constructor
    · intro h
      obtain ⟨sum, added, h⟩ := bind_eq_ok_iff.1 h
      obtain ⟨full, low, h⟩ := bind_eq_ok_iff.1 h
      cases same : token.sameKey full with
      | true => simp [same, pure, Except.pure] at h
      | false => exact ⟨⟨full, bind_eq_ok_iff.2 ⟨sum, added, low⟩, same⟩, by simpa [same] using h⟩
    · rintro ⟨⟨full, h, same⟩, rest⟩
      obtain ⟨sum, added, low⟩ := bind_eq_ok_iff.1 h
      exact bind_eq_ok_iff.2 ⟨sum, added, bind_eq_ok_iff.2 ⟨full, low, by simpa [same] using rest⟩⟩

/-- A string that is one of some full triggers is the lower case of one of them. -/
theorem exists_of_isFullTrigger {token leading : Value} {triggers : List Value}
    (h : isFullTrigger token leading triggers = .ok true) :
    ∃ t ∈ triggers, ∃ full, (leading.add t >>= Value.lowered) = .ok full ∧
      token.sameKey full = true := by
  induction triggers with
  | nil => simp [isFullTrigger] at h
  | cons trigger later ih =>
    obtain ⟨sum, added, h⟩ := bind_eq_ok_iff.1 h
    obtain ⟨full, low, h⟩ := bind_eq_ok_iff.1 h
    cases same : token.sameKey full with
    | true => exact ⟨trigger, by simp, full, bind_eq_ok_iff.2 ⟨sum, added, low⟩, same⟩
    | false =>
      obtain ⟨t, ht, found⟩ := ih (by simpa [same] using h)
      exact ⟨t, List.mem_cons_of_mem _ ht, found⟩

namespace Registry

/-- No entry owns a full trigger exactly if it differs from all of theirs. -/
theorem owner?_eq_none_iff {fullTrigger : Value} {entries : List Entry} :
    owner? fullTrigger entries = .ok none ↔
      ∀ entry ∈ entries, ∃ x, fullTrigger.lowered = .ok x ∧ entry.owns x = .ok false := by
  induction entries with
  | nil => simp [owner?]
  | cons entry later ih =>
    rw [owner?, List.forall_mem_cons, ← ih]
    constructor
    · intro h
      obtain ⟨x, low, h⟩ := bind_eq_ok_iff.1 h
      obtain ⟨owned, found, h⟩ := bind_eq_ok_iff.1 h
      cases owned with
      | true => simp [pure, Except.pure] at h
      | false => exact ⟨⟨x, low, found⟩, by simpa using h⟩
    · rintro ⟨⟨x, low, found⟩, rest⟩
      exact bind_eq_ok_iff.2 ⟨x, low, bind_eq_ok_iff.2 ⟨false, found, by simpa using rest⟩⟩

/-- The triggers of a command pass exactly if each of them can be put behind the prefix and has no
owner. -/
theorem checkTriggers_eq_ok_iff {entries : List Entry} {command : Command} {leading : Value}
    {triggers : List Value} :
    checkTriggers entries command leading triggers = .ok () ↔
      ∀ t ∈ triggers, ∃ full, leading.add t = .ok full ∧ owner? full entries = .ok none := by
  induction triggers with
  | nil => simp [checkTriggers]
  | cons trigger later ih =>
    rw [checkTriggers, List.forall_mem_cons, ← ih]
    constructor
    · intro h
      obtain ⟨full, added, h⟩ := bind_eq_ok_iff.1 h
      obtain ⟨owner, found, h⟩ := bind_eq_ok_iff.1 h
      cases owner with
      | some owner => cases h
      | none => exact ⟨⟨full, added, found⟩, h⟩
    · rintro ⟨⟨full, added, free⟩, rest⟩
      exact bind_eq_ok_iff.2 ⟨full, added, bind_eq_ok_iff.2 ⟨none, free, rest⟩⟩

/-- A value that has items counts as present exactly if it has at least one. -/
theorem truthy_eq {value : Value} {items : List Value} (h : value.items = .ok items) :
    value.truthy = !items.isEmpty := by
  rw [Bool.eq_iff_iff]
  cases value <;> simp only [Value.items, reduceCtorEq, Except.ok.injEq] at h <;> subst h <;>
    simp [Value.truthy]

theorem items_ne_nil {value : Value} {items : List Value} (present : value.truthy = true)
    (h : value.items = .ok items) : items ≠ [] := by
  simpa [truthy_eq h] using present

theorem length_entries (registry : Registry) : registry.entries.length = registry.size := by
  simp [entries, size]

/-- **What registration accepts.** There is a command, with a category, a description and at least
one trigger; its full triggers have no owner, and it can be filed. -/
theorem entryFor_eq_ok_iff {registry : Registry} {command : Option Command}
    {category : Option Category} {entry : Entry} :
    registry.entryFor command category = .ok entry ↔
      command = some entry.command ∧
        registry.categoryFor entry.command category = .ok (some entry.category) ∧
        entry.command.description ≠ .null ∧ entry.command.triggers.truthy = true ∧
        entry.command.triggers.items = .ok entry.triggers ∧
        checkTriggers registry.entries entry.command entry.defaultPrefix entry.triggers = .ok () ∧
        checkKeys (entry.defaultPrefix :: entry.triggers) = .ok () := by
  constructor
  · intro h
    cases command with
    | none => cases h
    | some command =>
      obtain ⟨found, named, h⟩ := bind_eq_ok_iff.1 h
      cases found with
      | none => cases h
      | some found =>
        by_cases missing : command.description = .null
        · simp only [missing, if_true] at h
          cases h
        simp only [Bool.false_eq_true, if_false] at h
        split at h
        · cases h
        rename_i present
        obtain ⟨triggers, listed, h⟩ := bind_eq_ok_iff.1 h
        obtain ⟨⟨⟩, checked, h⟩ := bind_eq_ok_iff.1 h
        obtain ⟨⟨⟩, keys, h⟩ := bind_eq_ok_iff.1 h
        cases h
        exact ⟨rfl, named, missing, by simpa using present, listed, checked, keys⟩
  · rintro ⟨rfl, named, described, present, listed, checked, keys⟩
    refine bind_eq_ok_iff.2 ⟨some entry.category, named, ?_⟩
    simp only [present, Bool.false_eq_true, Bool.not_true, if_false]
    exact bind_eq_ok_iff.2 ⟨_, listed, bind_eq_ok_iff.2 ⟨(), checked,
      bind_eq_ok_iff.2 ⟨(), keys, rfl⟩⟩⟩

/-! ### The invariant -/

/-- Any two entries are apart, and every entry is filed under its default prefix and its
triggers. -/
structure Consistent (registry : Registry) : Prop where
  /-- No full trigger has two owners. -/
  apart : registry.entries.Pairwise Entry.Apart
  /-- The keys of the table are those of its entries. -/
  filed : ∀ pair ∈ registry.table.toList, pair.1 = filingKey pair.2

theorem consistent_empty (categories : Categories) : (empty categories).Consistent :=
  ⟨List.Pairwise.nil, by simp [empty]⟩

/-- A command that is accepted is apart from all entries. -/
theorem apart_of_entryFor {registry : Registry} {command : Option Command}
    {category : Option Category} {entry : Entry}
    (accepted : registry.entryFor command category = .ok entry) :
    ∀ other ∈ registry.entries, entry.Apart other := by
  obtain ⟨-, -, -, -, -, checked, -⟩ := entryFor_eq_ok_iff.1 accepted
  intro other registered s hs t ht
  obtain ⟨sum, added, free⟩ := checkTriggers_eq_ok_iff.1 checked s hs
  obtain ⟨x, low, owned⟩ := owner?_eq_none_iff.1 free other registered
  obtain ⟨y, hy, differ⟩ := isFullTrigger_eq_false_iff.1 owned t ht
  refine ⟨x, y, bind_eq_ok_iff.2 ⟨sum, added, low⟩, hy, ?_⟩
  rintro rfl
  rw [Value.sameKey_self (Value.isString_of_lowered low).2] at differ
  cases differ

/-- An entry is filed where no other one is: two entries under one key would share their first full
trigger. -/
theorem get?_filingKey_of_entryFor {registry : Registry} (consistent : registry.Consistent)
    {command : Option Command} {category : Option Category} {entry : Entry}
    (accepted : registry.entryFor command category = .ok entry) :
    registry.table.get? (filingKey entry) = none := by
  cases found : registry.table.get? (filingKey entry) with
  | none => rfl
  | some other =>
    exfalso
    have filed := Table.mem_toList_iff.2 found
    have same : filingKey entry = filingKey other := consistent.filed _ filed
    have registered : other ∈ registry.entries := List.mem_map.2 ⟨_, filed, rfl⟩
    obtain ⟨-, -, -, present, listed, -⟩ := entryFor_eq_ok_iff.1 accepted
    obtain ⟨s, later, hs⟩ := List.exists_cons_of_ne_nil (items_ne_nil present listed)
    obtain ⟨samePrefix, sameTriggers⟩ := Prod.mk.inj same
    rw [hs, List.map_cons, eq_comm, List.map_eq_cons_iff] at sameTriggers
    obtain ⟨t, _, ht, sameTrigger, -⟩ := sameTriggers
    obtain ⟨x, y, hx, hy, differ⟩ :=
      apart_of_entryFor accepted other registered s (by simp [hs]) t (by simp [ht])
    obtain ⟨leading, trigger, -⟩ := Entry.isString_of_fullTrigger hx
    rw [Entry.fullTrigger, Value.eq_of_key?_eq leading samePrefix,
      Value.eq_of_key?_eq trigger sameTrigger.symm] at hx
    exact differ (Except.ok.inj (hx.symm.trans hy))

/-- The entries after a registration are the old ones and the new one. -/
theorem entries_file {registry : Registry} {entry : Entry}
    (fresh : registry.table.get? (filingKey entry) = none) :
    (registry.file entry).entries = registry.entries ++ [entry] := by
  rw [entries, Table.values_eq, file, Table.toList_insert_of_get?_eq_none entry fresh]
  simp [entries]

/-- What holds of the entries and of a new one holds of them after it was filed. -/
theorem forall_mem_entries_file {registry : Registry} {p : Entry → Prop}
    (h : ∀ other ∈ registry.entries, p other) {entry : Entry} (hentry : p entry) :
    ∀ other ∈ (registry.file entry).entries, p other := by
  intro other registered
  rcases Table.eq_or_mem_of_mem_values_insert registered with rfl | old
  · exact hentry
  · exact h other old

/-- What holds of the entries, whatever definition their commands have, holds of them after a
redefinition. -/
theorem forall_mem_entries_redefine {registry : Registry} {p : Entry → Prop} {instanceId : Nat}
    {definition : Definition} (h : ∀ entry ∈ registry.entries, p entry)
    (changed : ∀ entry, p entry → p { entry with command := { entry.command with definition } }) :
    ∀ entry ∈ (registry.redefine instanceId definition).entries, p entry := by
  simp only [entries, Registry.redefine, Table.values_eq, Table.toList_mapValues, List.map_map,
    List.forall_mem_map, Function.comp_apply]
  intro pair hpair
  have old : p pair.2 := h pair.2 (List.mem_map.2 ⟨pair, hpair, rfl⟩)
  split
  · exact changed pair.2 old
  · exact old

theorem Consistent.file {registry : Registry} (consistent : registry.Consistent)
    {command : Option Command} {category : Option Category} {entry : Entry}
    (accepted : registry.entryFor command category = .ok entry) :
    (registry.file entry).Consistent := by
  have fresh := get?_filingKey_of_entryFor consistent accepted
  constructor
  · rw [entries_file fresh, List.pairwise_append]
    refine ⟨consistent.apart, List.pairwise_singleton _ _, ?_⟩
    intro other registered new isNew
    rw [List.mem_singleton.1 isNew]
    exact (apart_of_entryFor accepted other registered).symm
  · intro pair hpair
    rw [Registry.file, Table.toList_insert_of_get?_eq_none entry fresh, List.mem_append] at hpair
    rcases hpair with old | new
    · exact consistent.filed pair old
    · rw [List.mem_singleton.1 new]

/-- Another definition changes neither the categories nor the triggers of entries. -/
theorem Consistent.redefine {registry : Registry} (consistent : registry.Consistent)
    (instanceId : Nat) (definition : Definition) :
    (registry.redefine instanceId definition).Consistent := by
  constructor
  · simp only [entries, Registry.redefine, Table.values_eq, Table.toList_mapValues, List.map_map]
    have apart := consistent.apart
    rw [entries, Table.values_eq, List.pairwise_map] at apart
    rw [List.pairwise_map]
    refine apart.imp fun {a b} h => h.of_same ?_ ?_ ?_ ?_ <;> dsimp only [Function.comp_apply] <;>
      split <;> rfl
  · intro pair hpair
    simp only [Registry.redefine, Table.toList_mapValues, List.mem_map] at hpair
    obtain ⟨old, hold, rfl⟩ := hpair
    rw [consistent.filed old hold]
    dsimp only
    split <;> rfl

end Registry

/-! ### Histories -/

namespace Roster

/-- A registration files the entry that is accepted, and does nothing if none is. -/
theorem run_register (command : Option Command) (category : Option Category) (roster : Roster) :
    register command category roster =
      match roster.registry.entryFor command category with
      | .ok entry =>
        ⟨[.logged (Registry.registeredNotice entry)],
          { roster with registry := roster.registry.file entry }, .ok entry⟩
      | .error fault => ⟨[], roster, .error fault⟩ := by
  cases accepted : roster.registry.entryFor command category <;>
    simp [register, Registry.register, accepted, Except.map]

/-- A category is added if its name can be looked up. That it has no text is noticed afterwards. -/
theorem run_addCategory (category : Category) (roster : Roster) :
    addCategory category roster =
      match roster.registry.categories.add category, Categories.addedNotice category with
      | .ok categories, .ok notice =>
        ⟨[.logged notice], { roster with registry := { roster.registry with categories } },
          .ok category⟩
      | .ok categories, .error fault =>
        ⟨[], { roster with registry := { roster.registry with categories } }, .error fault⟩
      | .error fault, _ => ⟨[], roster, .error fault⟩ := by
  cases added : roster.registry.categories.add category <;>
    cases noted : Categories.addedNotice category <;>
      simp [addCategory, Registry.addCategory, added, noted, Except.map]

/-- One operation on the command table. -/
inductive Operation where
  /-- Register a command, or no command, under a given category or under the one it names. -/
  | register (command : Option Command) (category : Option Category)
  /-- Add a category, or replace the one of its name. -/
  | addCategory (category : Category)
  /-- Give a command another definition, wherever it stands in the table. -/
  | redefine (instanceId : Nat) (definition : Definition)

/-- Perform an operation. Only a registration returns an entry. -/
def perform : Operation → Action Roster (Option Entry)
  | .register command category => some <$> register command category
  | .addCategory category => (fun _ => none) <$> addCategory category
  | .redefine instanceId definition =>
    (fun _ => none) <$> Action.modify fun roster =>
      { roster with registry := roster.registry.redefine instanceId definition }

/-- The roster that a history leaves. Operations that fail are part of it. -/
def after (roster : Roster) : List Operation → Roster
  | [] => roster
  | operation :: later => after (perform operation roster).state later

/-- The entries that the registrations of a history returned, one for each that succeeded. -/
def registered (roster : Roster) : List Operation → List Entry
  | [] => []
  | operation :: later =>
    (perform operation roster).result.toOption.join.toList ++
      registered (perform operation roster).state later

/-- **What an operation does to the table.** Either a registration files one more entry, or the
operation returns no entry and leaves the table, at most with other categories or definitions. -/
theorem perform_cases {motive : Operation → Outcome Roster (Option Entry) → Prop} (roster : Roster)
    (filed : ∀ command category entry events,
      roster.registry.entryFor command category = .ok entry →
        motive (.register command category)
          ⟨events, { roster with registry := roster.registry.file entry }, .ok (some entry)⟩)
    (recategorized : ∀ category categories events (result : Except Fault Unit),
      roster.registry.categories.add category = .ok categories →
        motive (.addCategory category)
          ⟨events, { roster with registry := { roster.registry with categories } },
            result.map fun _ => none⟩)
    (redefined : ∀ instanceId definition,
      motive (.redefine instanceId definition)
        ⟨[], { roster with registry := roster.registry.redefine instanceId definition }, .ok none⟩)
    (failed : ∀ operation fault, motive operation ⟨[], roster, .error fault⟩)
    (operation : Operation) : motive operation (perform operation roster) := by
  cases operation with
  | register command category =>
    rw [perform, Action.run_map, run_register]
    cases accepted : roster.registry.entryFor command category with
    | ok entry => exact filed command category entry _ accepted
    | error fault => exact failed _ fault
  | addCategory category =>
    rw [perform, Action.run_map, run_addCategory]
    cases added : roster.registry.categories.add category with
    | ok categories =>
      cases noted : Categories.addedNotice category with
      | ok notice => exact recategorized category categories _ (.ok ()) added
      | error fault => exact recategorized category categories _ (.error fault) added
    | error fault => exact failed _ fault
  | redefine instanceId definition => exact redefined instanceId definition

/-- What each operation preserves is preserved by a history of such operations. -/
theorem after_induction (invariant : Roster → Prop) {allowed : Operation → Prop}
    (step : ∀ roster operation, allowed operation → invariant roster →
      invariant (perform operation roster).state)
    {roster : Roster} (start : invariant roster) {history : List Operation}
    (h : ∀ operation ∈ history, allowed operation) : invariant (after roster history) := by
  induction history generalizing roster with
  | nil => exact start
  | cons operation later ih =>
    obtain ⟨first, others⟩ := List.forall_mem_cons.1 h
    exact ih (step roster operation first start) others

/-- The invariant is preserved by every operation, and the table grows by the entries that the
operation returned. -/
theorem consistent_perform {roster : Roster} (consistent : roster.registry.Consistent)
    (operation : Operation) :
    (perform operation roster).state.registry.Consistent ∧
      (perform operation roster).state.registry.entries.length =
        roster.registry.entries.length +
          (perform operation roster).result.toOption.join.toList.length := by
  refine perform_cases (motive := fun _ outcome =>
    outcome.state.registry.Consistent ∧ outcome.state.registry.entries.length =
      roster.registry.entries.length + outcome.result.toOption.join.toList.length)
    roster ?_ ?_ ?_ ?_ operation
  · intro command category entry events accepted
    have fresh := Registry.get?_filingKey_of_entryFor consistent accepted
    refine ⟨consistent.file accepted, ?_⟩
    rw [Registry.entries_file fresh, List.length_append]
    rfl
  · intro category categories events result _
    exact ⟨⟨consistent.apart, consistent.filed⟩, by cases result <;> rfl⟩
  · intro instanceId definition
    refine ⟨consistent.redefine instanceId definition, ?_⟩
    simp [Registry.entries, Registry.redefine, Except.toOption]
  · intro _ fault
    exact ⟨consistent, rfl⟩

/-- The invariant is preserved by every history. -/
theorem consistent_after {roster : Roster} (consistent : roster.registry.Consistent)
    (history : List Operation) :
    (after roster history).registry.Consistent ∧
      (after roster history).registry.entries.length =
        roster.registry.entries.length + (registered roster history).length := by
  induction history generalizing roster with
  | nil => exact ⟨consistent, rfl⟩
  | cons operation later ih =>
    obtain ⟨kept, grown⟩ := consistent_perform consistent operation
    obtain ⟨consistent', size⟩ := ih kept
    refine ⟨consistent', ?_⟩
    rw [after, registered, size, grown, List.length_append, Nat.add_assoc]

/-- **No full trigger has two owners**, whatever has happened to the table since it was empty. Each
registration that succeeded added an entry, and none took the place of another one. -/
theorem pairwise_apart_and_size_after (categories : Categories) (history : List Operation) :
    (after (create categories) history).registry.entries.Pairwise Entry.Apart ∧
      (after (create categories) history).registry.size =
        (registered (create categories) history).length := by
  have start : (create categories).registry.Consistent := Registry.consistent_empty categories
  obtain ⟨consistent, size⟩ := consistent_after start history
  refine ⟨consistent.apart, ?_⟩
  rw [← Registry.length_entries, size]
  exact Nat.zero_add _

end Roster

end CommandRouter
