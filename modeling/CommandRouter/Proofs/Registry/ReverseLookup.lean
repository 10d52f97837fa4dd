import CommandRouter.Proofs.Registry.Growth

/-!
# Looking a command up by itself

A command that was registered can be looked up again by the command itself. The entries are searched
in the order of registration for the first one whose command is the same as the given one.

## The same command

Two commands are the same if they are one instance, but also if they are two instances of one class
that agree in name and handler, though one of them may have a prefix rule and the other may not.
Such look-alikes may well stand in one table, since registration compares full triggers and nothing
else. So what is found is the entry of the given instance unless a look-alike was registered before
it, and then it is the entry of the look-alike.

An instance that was registered stays in its place: later registrations come behind it, and other
definitions do not make it another instance. Hence something is always found, and nothing that is
registered later takes its place.

## Main definitions

* `Command.LooksLike` says that two commands are the same without being one instance.
* `Registry.Shadowed` says that a look-alike stands before all entries of an instance.

## Main results

* `Roster.instances_after` says that the instances of a table stay in their places.
* `Roster.entryOf?_register` says what is found after any history.
-/

namespace CommandRouter

namespace Command

/-- Whether another instance counts as the same command. -/
def LooksLike (a b : Command) : Prop := a.instanceId ≠ b.instanceId ∧ a.isSame b = true

/-- An instance is the same as itself, whatever definitions it had in between. -/
theorem isSame_of_instanceId_eq {a b : Command} (h : a.instanceId = b.instanceId) :
    a.isSame b = true := by
  simp [isSame, h]

end Command

namespace Registry

variable {registry : Registry}

/-- The instances in a table, in the order of their registration. -/
def instances (registry : Registry) : List Nat :=
  registry.entries.map fun entry => entry.command.instanceId

@[simp] theorem length_instances (registry : Registry) :
    registry.instances.length = registry.size := by
  rw [instances, List.length_map, length_entries]

/-- Whether a look-alike of a command stands before all entries of its instance. -/
def Shadowed (registry : Registry) (command : Command) : Prop :=
  ∃ before other after, registry.entries = before ++ other :: after ∧
    other.command.LooksLike command ∧
      ∀ entry ∈ before, entry.command.instanceId ≠ command.instanceId

/-- What is looked up is the first entry whose command is the same. -/
theorem entryOf?_eq_some_iff {command : Command} {found : Entry} :
    registry.entryOf? command = some found ↔
      found.command.isSame command = true ∧ ∃ before after,
        registry.entries = before ++ found :: after ∧
          ∀ entry ∈ before, entry.command.isSame command = false := by
  simp [entryOf?, List.find?_eq_some_iff_append]

/-- Two splits of a list are at one place if the item of neither stands before that of the other. -/
theorem eq_of_append_cons_eq {α : Type} {a b : α} {before after before' after' : List α}
    (h : before ++ a :: after = before' ++ b :: after') (ha : a ∉ before') (hb : b ∉ before) :
    a = b := by
  induction before generalizing before' with
  | nil =>
    cases before' with
    | nil => exact (List.cons.inj h).1
    | cons c later => exact absurd (List.mem_cons.2 (.inl (List.cons.inj h).1)) ha
  | cons c before ih =>
    cases before' with
    | nil => exact absurd (List.mem_cons.2 (.inl (List.cons.inj h).1.symm)) hb
    | cons d before' =>
      exact ih (List.cons.inj h).2 (List.not_mem_of_not_mem_cons ha)
        (List.not_mem_of_not_mem_cons hb)

/-- **What is found is another instance exactly if the given one is shadowed.** -/
theorem instanceId_eq_iff_of_entryOf? {command : Command} {found : Entry}
    (h : registry.entryOf? command = some found) :
    found.command.instanceId = command.instanceId ↔ ¬registry.Shadowed command := by
  obtain ⟨same, before, after, split, differ⟩ := entryOf?_eq_some_iff.1 h
  have strange : ∀ entry ∈ before, entry.command.instanceId ≠ command.instanceId := by
    intro entry hentry own
    have isSame := Command.isSame_of_instanceId_eq own
    rw [differ entry hentry] at isSame
    cases isSame
  constructor
  · rintro own ⟨before', other, after', split', ⟨another, looksSame⟩, strange'⟩
    -- Neither of the two can stand before the other one, so they stand in one place.
    have place : found = other := by
      refine eq_of_append_cons_eq (split.symm.trans split') (fun h => strange' found h own) ?_
      intro h
      rw [differ other h] at looksSame
      cases looksSame
    exact another (place ▸ own)
  · intro unshadowed
    refine Decidable.byContradiction fun another => ?_
    exact unshadowed ⟨before, found, after, split, ⟨another, same⟩, strange⟩

/-- An instance that stands among the first entries is found, or its look-alike is, and what is
found stands among them too. -/
theorem exists_entryOf? {command : Command} {n : Nat}
    (h : command.instanceId ∈ registry.instances.take n) :
    ∃ found ∈ registry.entries.take n, registry.entryOf? command = some found := by
  rw [instances, ← List.map_take] at h
  obtain ⟨own, registered, identity⟩ := List.mem_map.1 h
  have searched : ((registry.entries.take n).find? fun entry =>
      entry.command.isSame command).isSome :=
    List.find?_isSome.2 ⟨own, registered, Command.isSame_of_instanceId_eq identity⟩
  obtain ⟨found, hfound⟩ := Option.isSome_iff_exists.1 searched
  refine ⟨found, List.mem_of_find?_eq_some hfound, ?_⟩
  rw [entryOf?, ← List.take_append_drop n registry.entries, List.find?_append, hfound,
    Option.some_or]

end Registry

namespace Roster

/-- An operation adds at most one instance behind those of the table. -/
theorem instances_perform {roster : Roster} (consistent : roster.registry.Consistent)
    (operation : Operation) :
    roster.registry.instances <+: (perform operation roster).state.registry.instances := by
  refine perform_cases (motive := fun _ outcome =>
    roster.registry.instances <+: outcome.state.registry.instances)
    roster ?_ ?_ ?_ ?_ operation
  · intro command category entry events accepted
    have fresh := Registry.get?_filingKey_of_entryFor consistent accepted
    rw [Registry.instances, Registry.instances, Registry.entries_file fresh, List.map_append]
    exact List.prefix_append _ _
  · intro _ _ _ _ _
    exact List.prefix_rfl
  · intro instanceId definition
    have same : (roster.registry.redefine instanceId definition).instances =
        roster.registry.instances := by
      simp only [Registry.instances, Registry.entries, Registry.redefine, Table.values_eq,
        Table.toList_mapValues, List.map_map]
      refine List.map_congr_left fun pair _ => ?_
      dsimp only [Function.comp_apply]
      split <;> rfl
    exact same ▸ List.prefix_rfl
  · intro _ fault
    exact List.prefix_rfl

/-- **The instances of a table stay in their places**, whatever happens to it. -/
theorem instances_after {roster : Roster} (consistent : roster.registry.Consistent)
    (history : List Operation) :
    roster.registry.instances <+: (after roster history).registry.instances := by
  induction history generalizing roster with
  | nil => exact List.prefix_rfl
  | cons operation later ih =>
    have kept := (consistent_perform consistent operation).1
    exact (instances_perform consistent operation).trans (ih kept)

/-- A registration that succeeds puts the instance behind those of the table. -/
theorem instances_register {roster : Roster} (consistent : roster.registry.Consistent)
    {command : Command} {given : Option Category} {entry : Entry}
    (registered : (register (some command) given roster).result = .ok entry) :
    (register (some command) given roster).state.registry.Consistent ∧
      (register (some command) given roster).state.registry.instances =
        roster.registry.instances ++ [command.instanceId] := by
  obtain ⟨accepted, filed⟩ := accepted_of_register registered
  obtain ⟨who, -⟩ := Registry.entryFor_eq_ok_iff.1 accepted
  cases who
  rw [filed]
  refine ⟨consistent.file accepted, ?_⟩
  rw [Registry.instances, Registry.entries_file (Registry.get?_filingKey_of_entryFor consistent
    accepted), List.map_append]
  rfl

/-- **A command that was registered is found by itself, unless a look-alike stands before it.**
Something is found in any case, and it was registered with the command or before it, whatever
happened later and whatever the definition of the command is now. -/
theorem entryOf?_register (categories : Categories) (earlier later : List Operation)
    (command : Command) (given : Option Category) {entry : Entry}
    (registered :
      (register (some command) given (after (create categories) earlier)).result = .ok entry)
    (now : Command) (identity : now.instanceId = command.instanceId) :
    let former := (after (create categories) earlier).registry
    let registering := register (some command) given (after (create categories) earlier)
    let registry := (after registering.state later).registry
    ∃ found, registry.entryOf? now = some found ∧ found.command.isSame now = true ∧
      found ∈ registry.entries.take (former.size + 1) ∧
      (found.command.instanceId = now.instanceId ↔ ¬registry.Shadowed now) := by
  intro former registering registry
  have start : (create categories).registry.Consistent := Registry.consistent_empty categories
  have consistent : former.Consistent := (consistent_after start earlier).1
  obtain ⟨consistent', instances⟩ := instances_register consistent registered
  obtain ⟨others, stays⟩ := instances_after consistent' later
  have first : registry.instances.take (former.size + 1) =
      former.instances ++ [command.instanceId] := by
    rw [← stays, instances]
    exact List.take_left' (by simp [former])
  have among : now.instanceId ∈ registry.instances.take (former.size + 1) := by
    simp [first, identity]
  obtain ⟨found, place, searched⟩ := Registry.exists_entryOf? among
  exact ⟨found, searched, (Registry.entryOf?_eq_some_iff.1 searched).1, place,
    Registry.instanceId_eq_iff_of_entryOf? searched⟩

/-- A table with one category and no command. -/
def openingHistory : List Operation := [.addCategory (.ofTexts "Utility" "!")]

/-- A command. -/
def elderCommand : Command := .plain 0 "ping" "Utility" ["ping"]

/-- Another command with the name and the handler of the first one, and other triggers. -/
def youngerCommand : Command := .plain 1 "ping" "Utility" ["pong"]

/-- A look-alike that is registered later is not found in the place of a command. -/
theorem entryOf?_register_elder :
    let registering := register (some elderCommand) none (after (create .empty) openingHistory)
    let registry :=
      (after registering.state [.register (some youngerCommand) none]).registry
    registry.size = 2 ∧ youngerCommand.LooksLike elderCommand ∧
      ¬registry.Shadowed elderCommand ∧ ∃ found, registry.entryOf? elderCommand = some found ∧
        found.command.instanceId = elderCommand.instanceId := by
  intro registering registry
  obtain ⟨found, searched, -, place, iff⟩ := entryOf?_register .empty openingHistory
    [.register (some youngerCommand) none] elderCommand none rfl elderCommand rfl
  have own : found.command.instanceId = elderCommand.instanceId := by
    rw [List.mem_singleton.1 place]
  exact ⟨rfl, ⟨by decide, rfl⟩, iff.1 own, found, searched, own⟩

/-- A look-alike that was registered before a command is found in its place. -/
theorem not_found_younger :
    let history := openingHistory ++ [.register (some elderCommand) none]
    let registering := register (some youngerCommand) none (after (create .empty) history)
    (∃ entry, registering.result = .ok entry ∧ entry.command = youngerCommand) ∧
      ∃ found, registering.state.registry.entryOf? youngerCommand = some found ∧
        found.command.instanceId ≠ youngerCommand.instanceId := by
  intro history registering
  exact ⟨⟨_, rfl, rfl⟩, _, rfl, by decide⟩

end Roster

end CommandRouter
