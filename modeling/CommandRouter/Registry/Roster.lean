import CommandRouter.Action
import CommandRouter.Registry.Basic

/-!
# The roster: the command table with a supply of identities

Commands are told apart by an identity that each of them gets when it is made. The roster holds
the command table together with the next unused identity.

## Main definitions

* `Blueprint` is what a command is made from; `Roster.make` makes one.
* `Roster.register` registers a command and logs it.
-/

namespace CommandRouter

/-- What a command is made from. -/
structure Blueprint where
  /-- The configuration of the command. -/
  config : CommandConfig
  /-- What running the command does. -/
  handler : Handler
  /-- The class of which the command is made an instance. -/
  classId : Nat := 0
  /-- The rule for the prefix of the command, if it does not follow its category. -/
  prefixRule : Option PrefixRule := none

/-- The command table together with the next unused identity. -/
structure Roster where
  /-- The command table. -/
  registry : Registry
  /-- The next unused identity. -/
  nextId : Nat

namespace Roster

/-- A roster without commands. -/
def create (categories : Categories) : Roster := ⟨.empty categories, 0⟩

/-- Make a command from a blueprint. -/
def make (blueprint : Blueprint) : Action Roster Command := do
  let definition ← Action.ofExcept blueprint.config.definition
  let roster ← Action.get
  Action.set { roster with nextId := roster.nextId + 1 }
  return {
    instanceId := roster.nextId
    classId := blueprint.classId
    definition := definition
    handler := blueprint.handler
    prefixRule := blueprint.prefixRule }

/-- Register a command under the given category, or under the one it names, and log it. -/
def register (command : Option Command) (category : Option Category) : Action Roster Entry := do
  let roster ← Action.get
  let (registry, entry) ← Action.ofExcept (roster.registry.register command category)
  Action.set { roster with registry }
  Action.log (Registry.registeredNotice entry)
  return entry

/-- Add a category and log it. -/
def addCategory (category : Category) : Action Roster Category := do
  let roster ← Action.get
  let registry ← Action.ofExcept (roster.registry.addCategory category)
  Action.set { roster with registry }
  let notice ← Action.ofExcept (Categories.addedNotice category)
  Action.log notice
  return category

/-- Add categories one after another. -/
def addCategories : List Category → Action Roster Unit
  | [] => return ()
  | category :: later => do
    let _ ← addCategory category
    addCategories later

end Roster

end CommandRouter
