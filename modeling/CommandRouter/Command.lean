import CommandRouter.Category
import CommandRouter.Handler
import CommandRouter.Priority

/-!
# Commands

A command has a definition — what it is called, how it is triggered, who may use it — and a
handler that runs it. Two commands are the same if they are the same instance, or if they agree
in class, name and handler.

A definition comes from a configuration, which is plain data: nothing says that a name is a text or
a priority a level. Whatever the configuration gives is kept, and a value of the wrong kind does no
harm until it is used for what it cannot do. The name alone is used all the time, in what is logged
and sent about the command, so it has to be something that has a text.

## Main definitions

* `Name` is the name of a command.
* `Rating` is what a command gives as its priority.
* `Definition` is the description of a command, and `CommandConfig` one as it is configured.
* `PrefixRule` computes the prefix of a command that does not follow its category.
* `Command` is an instance of a definition with a handler.
* `Command.prefixIn` is the prefix that a command answers to in a context.
-/

namespace CommandRouter

/-- The name of a command. It usually is a text. -/
structure Name where
  /-- The value that is the name. -/
  value : Value
  /-- The value has a text. -/
  isWritable : value.isWritable = true := by rfl

namespace Name

/-- The name that is a text. -/
def ofText (text : String) : Name := ⟨.text text, rfl⟩

/-- The name that is a value, which must have a text. -/
def ofValue (value : Value) : Except Fault Name :=
  if h : value.isWritable = true then .ok ⟨value, h⟩ else .error .tooLongToWrite

/-- The text of a name. -/
def text (name : Name) : String := name.value.display

/-- The text of a name where it stands inside a description. -/
def inner (name : Name) : String := name.value.inner

/-- The text of a name is what its value is printed as. -/
theorem printed_value (name : Name) : name.value.printed = .ok name.text :=
  if_pos name.isWritable

end Name

/-- What a command gives as its priority. -/
inductive Rating where
  /-- A level. -/
  | level (priority : Priority)
  /-- A value that is no level. -/
  | other (value : Value)

namespace Rating

/-- The level of a rating. What is no level lacks the feature of levels for which it is needed. -/
def levelFor (feature : String) : Rating → Except Fault Priority
  | level priority => .ok priority
  | other value => .error (.lacks value.kindName feature)

/-- The level by which candidates are compared. -/
def rank (rating : Rating) : Except Fault Priority := rating.levelFor "value"

/-- The name of the level. -/
def name (rating : Rating) : Except Fault String := (rating.levelFor "name").map Priority.name

/-- The rating that a configuration means. A text is the name of a level. -/
def resolve : Rating → Except Fault Rating
  | other (.text name) => (Priority.ofName name).map level
  | rating => .ok rating

/-- The rating that is given by the exact name of a level. Whatever may be a key may be looked up
among the names. -/
def ofMember : Value → Except Fault Rating
  | .text name =>
    match Priority.ofExactName? name with
    | some priority => .ok (level priority)
    | none => .error (.unknownMember (quoted name))
  | value =>
    .error (if value.isKey then .unknownMember value.inner else .notAKey value.kindName)

/-- Whether a rating is the level of commands that are never found without their prefix. -/
def isIgnored : Rating → Bool
  | level priority => decide (priority = .ignored)
  | other _ => false

end Rating

/-- The description of a command. -/
structure Definition where
  /-- The name of the command. -/
  name : Name
  /-- What the command does. -/
  description : Value
  /-- The words that trigger the command, without their prefix. -/
  triggers : Value
  /-- The name of the category of the command. -/
  category : Value
  /-- How strongly the command asserts itself. -/
  priority : Rating
  /-- The descriptions of the arguments. -/
  parameters : Value
  /-- Lines that show how the command is used. -/
  examples : Value
  /-- Whether the command may be used in guilds only. -/
  guildOnly : Value

/-- A command as it is configured. Everything but the name has a default. -/
structure CommandConfig where
  /-- The name. -/
  name : Option Name := none
  /-- What the command does. -/
  description : Value := .null
  /-- The words that trigger the command. Of a text each character is a trigger. -/
  triggers : Value := .list []
  /-- The name of the category. -/
  category : Value := .text "Utility"
  /-- How strongly the command asserts itself. -/
  priority : Rating := .level .normal
  /-- The descriptions of the arguments. -/
  parameters : Value := .list []
  /-- Lines that show how the command is used. -/
  examples : Value := .list []
  /-- Whether the command may be used in guilds only. -/
  guildOnly : Value := .bool false

namespace CommandConfig

/-- A value, or the empty list in its place if it does not count as present. -/
def orEmpty (value : Value) : Value :=
  if value.truthy then value else .list []

/-- The definition that a configuration describes. The priority is checked before the name, and the
name before the triggers. -/
def definition (config : CommandConfig) : Except Fault Definition := do
  let priority ← config.priority.resolve
  match config.name with
  | none => throw (.missingKey "name")
  | some name =>
    let triggers ← (orEmpty config.triggers).items
    return {
      name := name
      description := config.description
      triggers := .list triggers
      category := config.category
      priority := priority
      parameters := orEmpty config.parameters
      examples := orEmpty config.examples
      guildOnly := config.guildOnly }

end CommandConfig

/-- A rule that computes the prefix of a command in a context, for the category under which the
command is registered. -/
abbrev PrefixRule := Option Context → Category → Except Fault Value

/-- A command: an instance of a definition with a handler. -/
structure Command where
  /-- The identity of the instance. -/
  instanceId : Nat
  /-- The class of which the command is an instance. -/
  classId : Nat
  /-- The description of the command. -/
  definition : Definition
  /-- What running the command does. -/
  handler : Handler
  /-- The rule for the prefix of the command, if it does not follow its category. -/
  prefixRule : Option PrefixRule

namespace Command

/-- The name of the command. -/
def name (command : Command) : Name := command.definition.name

/-- What the command does. -/
def description (command : Command) : Value := command.definition.description

/-- The words that trigger the command. -/
def triggers (command : Command) : Value := command.definition.triggers

/-- The name of the category of the command. -/
def category (command : Command) : Value := command.definition.category

/-- How strongly the command asserts itself. -/
def priority (command : Command) : Rating := command.definition.priority

/-- Whether the command may be used in guilds only. -/
def guildOnly (command : Command) : Bool := command.definition.guildOnly.truthy

/-- The prefix that the command answers to in a context, as a member of a category. If the command
has no rule of its own, it is the default prefix of the category where there is no context. -/
def prefixIn (command : Command) (context : Option Context) (category : Category) :
    Except Fault Value :=
  match command.prefixRule with
  | some rule => rule context category
  | none =>
    match context with
    | none => .ok category.defaultPrefix
    | some context => category.prefixIn context.guild

/-- Whether two commands are the same instance, or agree in class, name and handler. -/
def isSame (a b : Command) : Bool :=
  decide (a.instanceId = b.instanceId) ||
    (a.classId == b.classId && a.name.value.same b.name.value &&
      a.handler.name.sameKey b.handler.name)

/-- The text that a command is shown as. -/
def summary (command : Command) : Except Fault String := do
  let triggers ← command.triggers.enclosed
  let priority ← command.priority.name
  return "<Command name=" ++ command.name.inner ++ " triggers=" ++ triggers ++
    " priority=" ++ priority ++ ">"

end Command

namespace Categories

/-- The category that a command names, if it is known. -/
def ofCommand (categories : Categories) (command : Command) : Except Fault (Option Category) :=
  categories.get? command.category

end Categories

end CommandRouter
