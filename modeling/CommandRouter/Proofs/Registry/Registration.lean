import CommandRouter.Proofs.Registry.Kinds

/-!
# What a registration needs, and what it says otherwise

A registration needs five things: a command, a category, a description, at least one trigger, and
that no trigger is held by an entry already. They are looked at in this order, and the first one
that is missing is reported. Everything else about a command is kept as it comes.

This is exact only where prefixes and triggers are strings. A number cannot stand in front of a
trigger, and the sum of two numbers cannot be lower-cased; such a registration ends with a fault
that says so, and it depends on the other entries whether it comes to that. So it is asked of a
history that every prefix it brings in is a string. The triggers that are in the table are then
strings of themselves, since each of them was put behind such a prefix.

## Who is named

A trigger that is taken is held by one entry only, because any two entries are apart. So it does not
matter in which order the entries are searched: the entry that the report names is the one that
holds the trigger. The triggers of the command are searched in their order, and the report names the
first one that is taken.

## Main definitions

* `Entry.Holds` says that an entry has a full trigger in any case.
* `Registry.HasStrings` is the invariant of the command table.
* `Registry.Accepts` lists what a registration needs, and `Registry.Refusal` what is reported if
  something is missing.

## Main results

* `Registry.entryFor_eq_ok_iff_accepts` says that these five things are enough, and
  `Registry.refusal_of_entryFor` what follows if they are not there.
* `Roster.exact_and_atomic_register` puts both together after any history.
-/

namespace CommandRouter

/-! ### Strings as keys -/

namespace Value

/-- A string names the same key as no other value. -/
theorem sameKey_eq_true_iff {a b : Value} (ha : a.IsString) : a.sameKey b = true ↔ a = b := by
  constructor
  · intro same
    refine eq_of_key?_eq ha ?_
    rw [sameKey] at same
    split at same
    · rename_i k l hk hl
      rw [hk, hl, of_decide_eq_true same]
    · cases same
  · rintro rfl
    exact sameKey_self ha

theorem isKey_of_isString {a : Value} (ha : a.IsString) : a.isKey = true := by
  rcases isString_iff.1 ha with ⟨s, rfl⟩ | ⟨codes, rfl⟩ <;> rfl

end Value

theorem checkKeys_of_isString {values : List Value} (h : ∀ value ∈ values, value.IsString) :
    Registry.checkKeys values = .ok () := by
  induction values with
  | nil => rfl
  | cons value later ih =>
    obtain ⟨first, others⟩ := List.forall_mem_cons.1 h
    rw [Registry.checkKeys, if_pos (Value.isKey_of_isString first), ih others]

/-! ### Entries of strings -/

namespace Entry

/-- Whether the default prefix and the triggers of an entry are strings. -/
structure HasStrings (entry : Entry) : Prop where
  /-- The default prefix is a string. -/
  defaultPrefix : entry.defaultPrefix.IsString
  /-- The triggers are strings. -/
  triggers : ∀ trigger ∈ entry.triggers, trigger.IsString

/-- Whether a trigger behind a prefix is, in lower case, a full trigger of an entry. -/
def Holds (entry : Entry) (leading trigger : Value) : Prop :=
  ∃ own ∈ entry.triggers, ∃ full,
    (leading.add trigger >>= Value.lowered) = .ok full ∧ entry.fullTrigger own = .ok full

/-- Of two entries that are apart, only one holds a trigger. -/
theorem Apart.not_holds {a b : Entry} (h : a.Apart b) {leading trigger : Value}
    (held : a.Holds leading trigger) : ¬b.Holds leading trigger := by
  rintro ⟨t, ht, full, low, hfull⟩
  obtain ⟨s, hs, full', low', hfull'⟩ := held
  obtain ⟨x, y, hx, hy, differ⟩ := h s hs t ht
  rw [low] at low'
  cases low'
  exact differ (Except.ok.inj ((hx.symm.trans hfull').trans (hfull.symm.trans hy)))

end Entry

/-- A string is one of some full triggers exactly if it is the lower case of one. -/
theorem yields_isFullTrigger_iff {token leading : Value} (htoken : token.IsString)
    (hleading : leading.IsString) {triggers : List Value}
    (h : ∀ trigger ∈ triggers, trigger.IsString) :
    Yields (isFullTrigger token leading triggers) fun found =>
      (found = true ↔ ∃ t ∈ triggers, (leading.add t >>= Value.lowered) = .ok token) := by
  induction triggers with
  | nil => exact .ok (by simp)
  | cons trigger later ih =>
    obtain ⟨first, others⟩ := List.forall_mem_cons.1 h
    obtain ⟨sum, added, hsum⟩ := Value.yields_add hleading first
    obtain ⟨full, low, -⟩ := Value.yields_lowered hsum
    have here : (leading.add trigger >>= Value.lowered) = .ok full := by rw [added, ok_bind, low]
    rw [isFullTrigger, added, ok_bind, low, ok_bind]
    split
    · rename_i same
      rw [Value.sameKey_eq_true_iff htoken] at same
      exact .ok (by simp [here, same])
    · rename_i differ
      rw [Value.sameKey_eq_true_iff htoken] at differ
      refine (ih others).mono fun found hfound => ?_
      simp [hfound, here, Ne.symm differ]

/-- An entry owns the lower case of a full trigger exactly if it holds the trigger. -/
theorem Entry.HasStrings.yields_owns {entry : Entry} (strings : entry.HasStrings)
    {leading trigger low : Value} (summed : (leading.add trigger >>= Value.lowered) = .ok low) :
    Yields (entry.owns low) fun owned => (owned = true ↔ entry.Holds leading trigger) := by
  obtain ⟨sum, -, lowered⟩ := bind_eq_ok_iff.1 summed
  have hlow : low.IsString := (Value.isString_of_lowered lowered).2
  refine (yields_isFullTrigger_iff hlow strings.defaultPrefix strings.triggers).mono ?_
  intro owned howned
  simp [howned, Entry.Holds, summed, Entry.fullTrigger]

/-! ### The categories and the entries of a table -/

/-- Whether the categories have strings for prefixes, and each is found by its own name. -/
structure Categories.HasStrings (categories : Categories) : Prop where
  /-- The prefixes are strings. -/
  defaultPrefix : ∀ pair ∈ categories.table.toList, pair.2.defaultPrefix.IsString
  /-- The key of a category is its lower-case name. -/
  named : ∀ pair ∈ categories.table.toList, pair.2.lowerName = .ok pair.1

namespace Registry

/-- Whether the prefixes and the triggers in a table are strings. -/
structure HasStrings (registry : Registry) : Prop where
  /-- The categories have strings for prefixes. -/
  categories : registry.categories.HasStrings
  /-- The entries have strings for prefixes and triggers. -/
  entries : ∀ entry ∈ registry.entries, entry.HasStrings

/-- Whether a trigger behind a prefix is a full trigger of no entry. -/
def IsFree (registry : Registry) (leading trigger : Value) : Prop :=
  ∀ other ∈ registry.entries, ¬other.Holds leading trigger

/-- The category under which a command is to be filed: the given one, or the known one whose name
differs at most in case from the name that the command gives. The empty name names none. -/
def FiledUnder (registry : Registry) (command : Command) (given : Option Category)
    (category : Category) : Prop :=
  given = some category ∨ given = none ∧ ∃ name, command.category = .text name ∧ name ≠ "" ∧
    category ∈ registry.categories.table.values ∧ category.lowerName = .ok (lower name)

/-- What a registration needs besides a command. -/
structure Accepts (registry : Registry) (given : Option Category) (entry : Entry) : Prop where
  /-- The command is filed under the category that is meant. -/
  filed : registry.FiledUnder entry.command given entry.category
  /-- The command has a description. -/
  described : entry.command.description ≠ .null
  /-- The triggers are those of the command. -/
  listed : entry.command.triggers.items = .ok entry.triggers
  /-- There is a trigger. -/
  triggers : entry.triggers ≠ []
  /-- No trigger is taken. -/
  free : ∀ trigger ∈ entry.triggers, registry.IsFree entry.defaultPrefix trigger

/-- Why a registration is refused, and the fault that reports it. Each reason takes for granted that
none before it applies. -/
inductive Refusal (registry : Registry) (given : Option Category) : Option Command → Fault → Prop
  /-- There is no command. -/
  | nullCommand : Refusal registry given none .nullCommand
  /-- There is no category for the command. -/
  | unknownCategory {command : Command}
      (unfiled : ∀ category, ¬registry.FiledUnder command given category) :
      Refusal registry given (some command) (.unknownCategory command.name.text)
  /-- The command has no description. -/
  | missingDescription {command : Command} {category : Category}
      (filed : registry.FiledUnder command given category)
      (undescribed : command.description = .null) :
      Refusal registry given (some command) (.missingDescription command.name.text)
  /-- The command has no trigger. -/
  | missingTrigger {command : Command} {category : Category}
      (filed : registry.FiledUnder command given category)
      (described : command.description ≠ .null) (untriggered : command.triggers.items = .ok []) :
      Refusal registry given (some command) (.missingTrigger command.name.text)
  /-- A trigger is taken, and none before it is. One entry and no other holds it. -/
  | triggerTaken {command : Command} {category : Category} {earlier later : List Value}
      {trigger full : Value} {before after : List Entry} {owner : Entry}
      (filed : registry.FiledUnder command given category)
      (described : command.description ≠ .null)
      (listed : command.triggers.items = .ok (earlier ++ trigger :: later))
      (passed : ∀ t ∈ earlier, registry.IsFree category.defaultPrefix t)
      (sum : category.defaultPrefix.add trigger = .ok full)
      (registered : registry.entries = before ++ owner :: after)
      (held : owner.Holds category.defaultPrefix trigger)
      (alone : ∀ other ∈ before ++ after, ¬other.Holds category.defaultPrefix trigger) :
      Refusal registry given (some command)
        (.triggerTaken full.display command.name.text owner.name.text)

theorem Refusal.isConfiguration {registry : Registry} {given : Option Category}
    {command : Option Command} {fault : Fault} (h : registry.Refusal given command fault) :
    fault.isConfiguration = true := by
  cases h <;> rfl

end Registry

/-- A command that is made of its name, its category and its triggers alone. -/
def Command.plain (instanceId : Nat) (name category : String) (triggers : List String) :
    Command where
  instanceId := instanceId
  classId := 0
  definition := {
    name := .ofText name
    description := .text name
    triggers := .list (triggers.map .text)
    category := .text category
    priority := .level .normal
    parameters := .list []
    examples := .list []
    guildOnly := .bool false }
  handler := .scripted (.text name) none none
  prefixRule := none

/-- What a command must be for its registration to turn on these conditions alone: its triggers are
strings, and it names its category by a text or not at all. -/
structure Command.HasStrings (command : Command) : Prop where
  /-- The triggers are strings. -/
  triggers : ∃ triggers, command.triggers.items = .ok triggers ∧ ∀ t ∈ triggers, t.IsString
  /-- The category is named by a text or not at all. -/
  category : command.category = .null ∨ ∃ name, command.category = .text name

namespace Registry

variable {registry : Registry}

/-! ### The conditions one by one -/

/-- The category of a command is the one under which it is to be filed. -/
theorem yields_categoryFor (strings : registry.categories.HasStrings) {command : Command}
    (hcommand : command.HasStrings) (given : Option Category) :
    Yields (registry.categoryFor command given) fun found =>
      ∀ category, found = some category ↔ registry.FiledUnder command given category := by
  cases given with
  | some category => exact .ok fun other => by simp [FiledUnder]
  | none =>
    rcases hcommand.category with missing | ⟨name, named⟩
    · refine ⟨none, by rw [categoryFor, Categories.ofCommand, missing]; rfl, ?_⟩
      simp [FiledUnder, missing]
    · rw [categoryFor, Categories.ofCommand, named]
      by_cases empty : name = ""
      · exact ⟨none, by rw [empty]; rfl, by simp [FiledUnder, named, empty]⟩
      refine ⟨registry.categories.table.get? (lower name), ?_, fun category => ?_⟩
      · rw [Categories.get?, if_pos (by simp [Value.truthy, empty])]
        rfl
      · rw [← Table.mem_toList_iff]
        constructor
        · intro known
          exact .inr ⟨rfl, name, named, empty, List.mem_map.2 ⟨_, known, rfl⟩,
            strings.named _ known⟩
        · rintro (⟨⟨⟩⟩ | ⟨-, name', named', -, listed, low⟩)
          obtain ⟨pair, known, rfl⟩ := List.mem_map.1 listed
          cases named.symm.trans named'
          rw [← Except.ok.inj ((strings.named pair known).symm.trans low)]
          exact known

/-- An owner of a full trigger is an entry that holds it, and without one no entry does. -/
theorem yields_owner? {entries : List Entry} (strings : ∀ entry ∈ entries, entry.HasStrings)
    {leading trigger full : Value} (sum : leading.add trigger = .ok full) (hfull : full.IsString) :
    Yields (owner? full entries) fun found =>
      (∀ owner ∈ found, owner ∈ entries ∧ owner.Holds leading trigger) ∧
        (found = none → ∀ entry ∈ entries, ¬entry.Holds leading trigger) := by
  obtain ⟨low, lowered, -⟩ := Value.yields_lowered hfull
  have summed : (leading.add trigger >>= Value.lowered) = .ok low := by rw [sum, ok_bind, lowered]
  induction entries with
  | nil => exact .ok (by simp)
  | cons entry later ih =>
    obtain ⟨first, others⟩ := List.forall_mem_cons.1 strings
    obtain ⟨owned, decided, held⟩ := first.yields_owns summed
    rw [owner?, lowered, ok_bind, decided, ok_bind]
    cases owned with
    | true => exact .ok (by simpa using held)
    | false =>
      obtain ⟨found, searched, sound, complete⟩ := ih others
      refine ⟨found, searched, fun owner isOwner => ?_, fun none => ?_⟩
      · obtain ⟨known, holds⟩ := sound owner isOwner
        exact ⟨List.mem_cons_of_mem _ known, holds⟩
      · exact List.forall_mem_cons.2 ⟨by simpa using held, complete none⟩

/-- Triggers that are strings pass if they are free. Otherwise the first one that is taken is
reported, with an entry that holds it. -/
theorem checkTriggers_cases (strings : ∀ entry ∈ registry.entries, entry.HasStrings)
    (command : Command) {leading : Value} (hleading : leading.IsString) {triggers : List Value}
    (h : ∀ trigger ∈ triggers, trigger.IsString) :
    (checkTriggers registry.entries command leading triggers = .ok () ∧
        ∀ trigger ∈ triggers, registry.IsFree leading trigger) ∨
      ∃ earlier trigger later full owner, triggers = earlier ++ trigger :: later ∧
        (∀ t ∈ earlier, registry.IsFree leading t) ∧ leading.add trigger = .ok full ∧
        owner ∈ registry.entries ∧ owner.Holds leading trigger ∧
        checkTriggers registry.entries command leading triggers =
          .error (.triggerTaken full.display command.name.text owner.name.text) := by
  induction triggers with
  | nil => exact .inl ⟨rfl, by simp⟩
  | cons trigger later ih =>
    obtain ⟨first, others⟩ := List.forall_mem_cons.1 h
    obtain ⟨full, sum, hfull⟩ := Value.yields_add hleading first
    obtain ⟨found, searched, sound, complete⟩ := yields_owner? strings sum hfull
    rw [checkTriggers, sum, ok_bind, searched, ok_bind]
    cases found with
    | some owner =>
      obtain ⟨registered, held⟩ := sound owner rfl
      exact .inr ⟨[], trigger, later, full, owner, rfl, by simp, sum, registered, held, rfl⟩
    | none =>
      have free : registry.IsFree leading trigger := complete rfl
      rcases ih others with ⟨passed, rest⟩ | ⟨earlier, t, after, full', owner, rfl, passed, taken⟩
      · exact .inl ⟨passed, List.forall_mem_cons.2 ⟨free, rest⟩⟩
      · exact .inr ⟨trigger :: earlier, t, after, full', owner, rfl,
          List.forall_mem_cons.2 ⟨free, passed⟩, taken⟩

/-- Free triggers pass, and none that is taken does. -/
theorem checkTriggers_eq_ok_iff_free (strings : ∀ entry ∈ registry.entries, entry.HasStrings)
    (command : Command) {leading : Value} (hleading : leading.IsString) {triggers : List Value}
    (h : ∀ trigger ∈ triggers, trigger.IsString) :
    checkTriggers registry.entries command leading triggers = .ok () ↔
      ∀ trigger ∈ triggers, registry.IsFree leading trigger := by
  rcases checkTriggers_cases strings command hleading h with
    ⟨passed, free⟩ | ⟨earlier, t, later, full, owner, rfl, -, -, registered, held, refused⟩
  · exact iff_of_true passed free
  · refine iff_of_false (by rw [refused]; simp) fun free => ?_
    exact free t (by simp) owner registered held

/-- The prefix of the category under which a command is filed is a string. -/
theorem FiledUnder.isString (strings : registry.categories.HasStrings) {command : Command}
    {given : Option Category} (hgiven : ∀ category ∈ given, category.defaultPrefix.IsString)
    {category : Category} (filed : registry.FiledUnder command given category) :
    category.defaultPrefix.IsString := by
  rcases filed with rfl | ⟨-, name, -, -, listed, -⟩
  · exact hgiven category rfl
  · obtain ⟨pair, known, rfl⟩ := List.mem_map.1 listed
    exact strings.defaultPrefix pair known

/-- An entry that holds a trigger is the only one. -/
theorem Consistent.alone (consistent : registry.Consistent) {before after : List Entry}
    {owner : Entry} (registered : registry.entries = before ++ owner :: after)
    {leading trigger : Value} (held : owner.Holds leading trigger) :
    ∀ other ∈ before ++ after, ¬other.Holds leading trigger := by
  have apart := consistent.apart
  rw [registered, List.pairwise_append, List.pairwise_cons] at apart
  obtain ⟨-, ⟨later, -⟩, earlier⟩ := apart
  -- The relation runs along the list, so for the entries before the owner it is turned round.
  intro other hother
  rcases List.mem_append.1 hother with hbefore | hafter
  · exact (earlier other hbefore owner (by simp)).symm.not_holds held
  · exact (later other hafter).not_holds held

/-! ### All conditions -/

/-- **The conditions are enough, and all of them are needed.** -/
theorem entryFor_eq_ok_iff_accepts (strings : registry.HasStrings) {command : Option Command}
    {given : Option Category} (hcommand : ∀ c ∈ command, c.HasStrings)
    (hgiven : ∀ category ∈ given, category.defaultPrefix.IsString) {entry : Entry} :
    registry.entryFor command given = .ok entry ↔
      command = some entry.command ∧ registry.Accepts given entry := by
  rw [entryFor_eq_ok_iff]
  -- Condition by condition; that the values are fit for keys is no condition, as they are strings.
  refine and_congr_right fun isCommand => ?_
  have hentry := hcommand entry.command isCommand
  obtain ⟨found, looked, hfound⟩ := yields_categoryFor strings.categories hentry given
  obtain ⟨triggers, listed, texts⟩ := hentry.triggers
  rw [looked, Except.ok.injEq, hfound]
  constructor
  · rintro ⟨filed, described, present, listed', checked, -⟩
    cases listed.symm.trans listed'
    exact ⟨filed, described, listed', items_ne_nil present listed',
      (checkTriggers_eq_ok_iff_free strings.entries _ (filed.isString strings.categories hgiven)
        texts).1 checked⟩
  · rintro ⟨filed, described, listed', nonempty, free⟩
    cases listed.symm.trans listed'
    have leading := filed.isString strings.categories hgiven
    exact ⟨filed, described, by simpa [truthy_eq listed'] using nonempty, listed',
      (checkTriggers_eq_ok_iff_free strings.entries _ leading texts).2 free,
      checkKeys_of_isString (List.forall_mem_cons.2 ⟨leading, texts⟩)⟩

/-- **The first condition that fails is reported.** -/
theorem refusal_of_entryFor (strings : registry.HasStrings) (consistent : registry.Consistent)
    {command : Option Command} {given : Option Category} (hcommand : ∀ c ∈ command, c.HasStrings)
    (hgiven : ∀ category ∈ given, category.defaultPrefix.IsString) {fault : Fault}
    (refused : registry.entryFor command given = .error fault) :
    registry.Refusal given command fault := by
  cases command with
  | none =>
    cases refused
    exact .nullCommand
  | some command =>
    have hcommand := hcommand command rfl
    obtain ⟨found, looked, hfound⟩ := yields_categoryFor strings.categories hcommand given
    obtain ⟨triggers, listed, texts⟩ := hcommand.triggers
    simp only [entryFor, looked, ok_bind] at refused
    cases found with
    | none =>
      cases refused
      exact .unknownCategory fun category filed => by cases (hfound category).2 filed
    | some category =>
      have filed := (hfound category).1 rfl
      have leading := filed.isString strings.categories hgiven
      by_cases undescribed : command.description = .null
      · simp only [undescribed] at refused
        cases refused
        exact .missingDescription filed undescribed
      simp only [Bool.false_eq_true, if_false] at refused
      split at refused
      · rename_i absent
        cases refused
        have none : triggers = [] := by simpa [truthy_eq listed] using absent
        exact .missingTrigger filed undescribed (none ▸ listed)
      rw [listed, ok_bind] at refused
      have keys := checkKeys_of_isString (List.forall_mem_cons.2 ⟨leading, texts⟩)
      rcases checkTriggers_cases strings.entries command leading texts with
        ⟨passed, -⟩ | ⟨earlier, trigger, later, full, owner, rfl, free, sum, known, held, taken⟩
      · rw [passed, ok_bind, keys] at refused
        cases refused
      · rw [taken] at refused
        cases refused
        obtain ⟨before, after, split⟩ := List.append_of_mem known
        exact .triggerTaken filed undescribed listed free sum split held
          (consistent.alone split held)

/-! ### The invariant -/

theorem hasStrings_empty : (empty .empty).HasStrings :=
  ⟨⟨List.forall_mem_nil _, List.forall_mem_nil _⟩, List.forall_mem_nil _⟩

/-- A category that is added has a string for its prefix, and it is found by its name. -/
theorem HasStrings.addCategory (strings : registry.HasStrings) {category : Category}
    (hcategory : category.defaultPrefix.IsString) {categories : Categories}
    (added : registry.categories.add category = .ok categories) :
    { registry with categories := categories }.HasStrings := by
  obtain ⟨name, named, rfl⟩ := map_eq_ok_iff.1 added
  refine ⟨⟨fun pair known => ?_, fun pair known => ?_⟩, strings.entries⟩ <;>
    rcases Table.eq_or_mem_of_mem_toList_insert known with rfl | old
  · exact hcategory
  · exact strings.categories.defaultPrefix pair old
  · exact named
  · exact strings.categories.named pair old

/-- The triggers of an entry that is accepted are strings, because they stand behind a string. -/
theorem HasStrings.entryFor (strings : registry.HasStrings) {command : Option Command}
    {given : Option Category} (hgiven : ∀ category ∈ given, category.defaultPrefix.IsString)
    {entry : Entry} (accepted : registry.entryFor command given = .ok entry) :
    entry.HasStrings := by
  obtain ⟨-, filed, -, -, -, checked, -⟩ := entryFor_eq_ok_iff.1 accepted
  have leading : entry.defaultPrefix.IsString := by
    cases given with
    | some category =>
      cases filed
      exact hgiven entry.category rfl
    | none =>
      obtain ⟨pair, known, same⟩ := List.mem_map.1 (Categories.mem_values_of_get? filed)
      rw [Entry.defaultPrefix, ← same]
      exact strings.categories.defaultPrefix pair known
  refine ⟨leading, fun trigger htrigger => ?_⟩
  obtain ⟨full, sum, -⟩ := checkTriggers_eq_ok_iff.1 checked trigger htrigger
  exact Value.isString_of_add leading sum

theorem HasStrings.file (strings : registry.HasStrings) {entry : Entry}
    (hentry : entry.HasStrings) : (registry.file entry).HasStrings :=
  ⟨strings.categories, forall_mem_entries_file strings.entries hentry⟩

theorem HasStrings.redefine (strings : registry.HasStrings) (instanceId : Nat)
    (definition : Definition) : (registry.redefine instanceId definition).HasStrings := by
  refine ⟨strings.categories, forall_mem_entries_redefine strings.entries ?_⟩
  intro entry old
  exact ⟨old.defaultPrefix, old.triggers⟩

end Registry

namespace Roster

/-- Whether the prefixes that an operation brings into the table are strings. -/
def Operation.HasStrings : Operation → Prop
  | register _ given => ∀ category ∈ given, category.defaultPrefix.IsString
  | addCategory category => category.defaultPrefix.IsString
  | redefine _ _ => True

theorem hasStrings_perform {roster : Roster} (strings : roster.registry.HasStrings)
    (operation : Operation) (h : operation.HasStrings) :
    (perform operation roster).state.registry.HasStrings := by
  refine perform_cases (motive := fun operation outcome =>
    operation.HasStrings → outcome.state.registry.HasStrings) roster ?_ ?_ ?_ ?_ operation h
  · intro command given entry events accepted hgiven
    exact strings.file (strings.entryFor hgiven accepted)
  · intro category categories events result added hcategory
    exact strings.addCategory hcategory added
  · intro instanceId definition _
    exact strings.redefine instanceId definition
  · intro _ fault _
    exact strings

/-- The invariant holds after every history of such operations. -/
theorem hasStrings_after {history : List Operation}
    (h : ∀ operation ∈ history, operation.HasStrings) :
    (after (create .empty) history).registry.HasStrings :=
  after_induction (fun roster => roster.registry.HasStrings)
    (fun _ operation h start => hasStrings_perform start operation h) Registry.hasStrings_empty h

/-- **A registration succeeds exactly if nothing that it needs is missing**, and then the new entry
is the last one. Otherwise it changes nothing, and reports the first thing that is missing. -/
theorem exact_and_atomic_register {history : List Operation}
    (operations : ∀ operation ∈ history, operation.HasStrings) {command : Option Command}
    {given : Option Category} (hcommand : ∀ c ∈ command, c.HasStrings)
    (hgiven : ∀ category ∈ given, category.defaultPrefix.IsString) :
    let roster := after (create .empty) history
    let outcome := register command given roster
    ((∃ entry, outcome.result = .ok entry) ↔
        ∃ entry, command = some entry.command ∧ roster.registry.Accepts given entry) ∧
      (∀ entry, outcome.result = .ok entry →
        command = some entry.command ∧ roster.registry.Accepts given entry ∧
          outcome.state.registry.entries = roster.registry.entries ++ [entry]) ∧
      ∀ fault, outcome.result = .error fault →
        outcome.state = roster ∧ fault.isConfiguration = true ∧
          roster.registry.Refusal given command fault := by
  intro roster outcome
  have strings : roster.registry.HasStrings := hasStrings_after operations
  have consistent : roster.registry.Consistent :=
    (consistent_after (Registry.consistent_empty .empty) history).1
  have accepts : ∀ entry, roster.registry.entryFor command given = .ok entry ↔
      command = some entry.command ∧ roster.registry.Accepts given entry := fun entry =>
    Registry.entryFor_eq_ok_iff_accepts strings hcommand hgiven
  have run : outcome = _ := run_register command given roster
  cases decided : roster.registry.entryFor command given with
  | ok entry =>
    rw [decided] at run
    have accepted := (accepts entry).1 decided
    refine ⟨iff_of_true ⟨entry, by rw [run]⟩ ⟨entry, accepted⟩, ?_, ?_⟩
    · intro entry' result
      rw [run] at result ⊢
      cases result
      have fresh := Registry.get?_filingKey_of_entryFor consistent decided
      exact ⟨accepted.1, accepted.2, Registry.entries_file fresh⟩
    · intro fault result
      rw [run] at result
      cases result
  | error fault =>
    rw [decided] at run
    have refusal := Registry.refusal_of_entryFor strings consistent hcommand hgiven decided
    refine ⟨iff_of_false ?_ ?_, ?_, ?_⟩
    · rintro ⟨entry, result⟩
      rw [run] at result
      cases result
    · rintro ⟨entry, accepted⟩
      cases decided.symm.trans ((accepts entry).2 accepted)
    · intro entry result
      rw [run] at result
      cases result
    · intro fault' result
      rw [run] at result ⊢
      cases result
      exact ⟨rfl, refusal.isConfiguration, refusal⟩

/-- A command under the prefix `!`, and after it a category with the prefix `!p`. -/
def splitHistory : List Operation := [
  .addCategory (.ofTexts "Utility" "!"),
  .register (some (.plain 0 "ping" "utility" ["ping"])) none,
  .addCategory (.ofTexts "Fun" "!p")]

/-- The full trigger `!ping` is taken, wherever its prefix ends and in whatever case it is
written. -/
theorem exact_and_atomic_register_split :
    let roster := after (create .empty) splitHistory
    let command := Command.plain 1 "ring" "Fun" ["ong", "ING"]
    (∀ operation ∈ splitHistory, operation.HasStrings) ∧ command.HasStrings ∧
      (register (some command) none roster).state = roster ∧
      roster.registry.Refusal none (some command) (.triggerTaken "!pING" "ring" "ping") := by
  intro roster command
  have operations : ∀ operation ∈ splitHistory, operation.HasStrings := by
    simp [splitHistory, Operation.HasStrings, Category.ofTexts]
  have strings : command.HasStrings :=
    ⟨⟨[.text "ong", .text "ING"], rfl, by simp⟩, .inr ⟨"Fun", rfl⟩⟩
  have taken : (register (some command) none roster).result =
      .error (.triggerTaken "!pING" "ring" "ping") := rfl
  have exact := @exact_and_atomic_register splitHistory operations (some command) none
    (fun c hc => Option.some.inj hc ▸ strings) (by simp)
  obtain ⟨unchanged, -, refusal⟩ := exact.2.2 _ taken
  exact ⟨operations, strings, unchanged, refusal⟩

end Roster

end CommandRouter
