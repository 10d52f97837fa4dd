import CommandRouter.Registry.Entry
import CommandRouter.Selection

/-!
# The command table

The table holds the registered commands in registration order. A command is refused if one of its
full triggers — the default prefix of its category followed by the trigger — equals, in lower
case, a full trigger that is already in the table. So a full trigger never has two owners.

## What is compared

The comparison is between whole texts, not between prefixes and triggers apart, because a user
types the whole text: `!` with the trigger `!x` is reached by the same line as `!!` with `x`.
Lower-casing comes after joining, because the lower case of a letter may depend on its neighbours.

Only default prefixes are compared. A guild may give two categories the same prefix, and a command
may choose its own, so in a context two commands can still be reached by one token; then
`Registry.resolve` lets the priority decide. A command is not compared with itself either, so it
may list a trigger twice.

## Odd prefixes and triggers

Prefixes and triggers of other kinds are added as values are, and a sum that is no string is noticed
as soon as it is compared with another one. So a command with such full triggers can only be the
first one in the table, and no other can follow it.

## Main definitions

* `Registry` holds the categories and the entries.
* `Registry.checkTriggers` checks triggers one by one, and reports the first that is taken.
* `Registry.register` adds a command or says why it is refused.
* `Registry.redefine` changes the definition of a command that may be in the table.
-/

namespace CommandRouter

/-- What an entry is filed under: the default prefix of its category together with its triggers,
each by the key that it names. -/
abbrev FilingKey := Option Key × List (Option Key)

/-- The categories and the registered commands. -/
structure Registry where
  /-- The categories by which commands are filed. -/
  categories : Categories
  /-- The entries in registration order. -/
  table : Table FilingKey Entry

namespace Registry

/-- A table without commands. -/
def empty (categories : Categories) : Registry := ⟨categories, .empty⟩

/-- The entries in registration order. -/
def entries (registry : Registry) : List Entry := registry.table.values

/-- The number of entries. -/
def size (registry : Registry) : Nat := registry.table.size

/-- Add a category, replacing one whose name differs at most in case. -/
def addCategory (registry : Registry) (category : Category) : Except Fault Registry :=
  (registry.categories.add category).map fun categories => { registry with categories }

/-! ### Registration -/

/-- The first entry that owns a full trigger in any case. -/
def owner? (fullTrigger : Value) : List Entry → Except Fault (Option Entry)
  | [] => .ok none
  | entry :: later => do
    if ← entry.owns (← fullTrigger.lowered) then return some entry else owner? fullTrigger later

/-- Check the triggers of a command behind a prefix, one after another: the full trigger must not be
taken. One that is taken is a string, since it was compared. -/
def checkTriggers (entries : List Entry) (command : Command) (leading : Value) :
    List Value → Except Fault Unit
  | [] => .ok ()
  | trigger :: later => do
    let fullTrigger ← leading.add trigger
    match ← owner? fullTrigger entries with
    | some owner =>
      throw (.triggerTaken fullTrigger.display command.name.text owner.name.text)
    | none => checkTriggers entries command leading later

/-- Check that values are fit for keys. -/
def checkKeys : List Value → Except Fault Unit
  | [] => .ok ()
  | value :: later => if value.isKey then checkKeys later else .error (.notAKey value.kindName)

/-- The category under which a command is registered: the given one, or the one it names. -/
def categoryFor (registry : Registry) (command : Command) (category : Option Category) :
    Except Fault (Option Category) :=
  match category with
  | some category => .ok (some category)
  | none => registry.categories.ofCommand command

/-- The entry that a command would have under the given category, or under the one it names. The
conditions are checked in a fixed order, and the first that fails is reported. -/
def entryFor (registry : Registry) (command : Option Command) (category : Option Category) :
    Except Fault Entry :=
  match command with
  | none => .error .nullCommand
  | some command => do
    match ← registry.categoryFor command category with
    | none => throw (.unknownCategory command.name.text)
    | some category =>
      if command.description matches .null then throw (.missingDescription command.name.text)
      if !command.triggers.truthy then throw (.missingTrigger command.name.text)
      let triggers ← command.triggers.items
      checkTriggers registry.entries command category.defaultPrefix triggers
      checkKeys (category.defaultPrefix :: triggers)
      return ⟨command, category, triggers⟩

/-- What an entry is filed under. -/
def filingKey (entry : Entry) : FilingKey :=
  (entry.defaultPrefix.key?, entry.triggers.map Value.key?)

/-- The table with an entry at its end. -/
def file (registry : Registry) (entry : Entry) : Registry :=
  { registry with table := registry.table.insert (filingKey entry) entry }

/-- Register a command under the given category, or under the one it names. -/
def register (registry : Registry) (command : Option Command) (category : Option Category) :
    Except Fault (Registry × Entry) :=
  (registry.entryFor command category).map fun entry => (registry.file entry, entry)

/-- What is logged when a command is registered. The prefix and the triggers are strings; only the
first entry of a table may have others, because it was compared with no entry. -/
def registeredNotice (entry : Entry) : Notice :=
  .debug "CommandRegistry"
    ("Registered command: " ++ entry.name.text ++ " " ++ entry.defaultPrefix.display ++
      (Value.list entry.triggers).inner)

/-! ### Access -/

/-- The first entry whose command is the same as the given one. -/
def entryOf? (registry : Registry) (command : Command) : Option Entry :=
  registry.entries.find? fun entry => entry.command.isSame command

/-- The entries under a category whose name differs at most in case from the given one. -/
def inCategory (registry : Registry) (name : Value) : Except Fault (List Entry) := do
  let name ← name.lowered
  selectWhere (fun entry => return name.sameKey (← entry.category.name.lowered)) registry.entries

/-- Give a command another definition wherever it stands in the table. The triggers under which it
was registered stay. -/
def redefine (registry : Registry) (instanceId : Nat) (definition : Definition) : Registry :=
  { registry with
    table := registry.table.mapValues fun entry =>
      if entry.command.instanceId = instanceId then
        { entry with command := { entry.command with definition } }
      else entry }

end Registry

end CommandRouter
