import CommandRouter.Guild.Settings
import CommandRouter.Logging
import CommandRouter.Message

/-!
# Categories

A category is a named group of commands that share a default prefix. A guild may replace the
prefix of a category by its own.

Name and prefix are texts in every sensible category, but nothing checks that they are. A name of
another kind cannot be lower-cased, which is noticed where the category is looked up or replaced by
name. A prefix of another kind cannot stand in front of a trigger, which is noticed where commands
are registered.

## Main definitions

* `Category` is a name with a default prefix; `Category.prefixIn` is the prefix in a guild.
* `Categories` is the table of known categories, looked up by name in any case.
* `Context` is where a line was written.
-/

namespace CommandRouter

/-- A named group of commands with a default prefix. -/
structure Category where
  /-- The name of the category. -/
  name : Value
  /-- The prefix of its commands where no guild replaces it. -/
  defaultPrefix : Value

namespace Category

/-- The category of two texts. -/
def ofTexts (name defaultPrefix : String) : Category := ⟨.text name, .text defaultPrefix⟩

/-- The lower-case name of a category. -/
def lowerName (category : Category) : Except Fault String :=
  (category.name.textFor "lower").map lower

/-- The prefix of the category in a guild: the guild's own one unless it is missing or empty. -/
def prefixIn (category : Category) (guild : Option Guild) : Except Fault Value :=
  match guild with
  | none => .ok category.defaultPrefix
  | some guild => do
    match ← guild.customPrefix? category.lowerName with
    | some custom => if custom.truthy then return custom else return category.defaultPrefix
    | none => return category.defaultPrefix

/-- The categories that a router knows when it is not told others. -/
def defaults : List Category := [
  ofTexts "Administration" ".", ofTexts "Help" "!", ofTexts "Fun" "!", ofTexts "Interaction" ">",
  ofTexts "Music" "!", ofTexts "Search" "!", ofTexts "Utility" "!", ofTexts "System" ";"]

@[simp] theorem lowerName_ofTexts (name defaultPrefix : String) :
    (ofTexts name defaultPrefix).lowerName = .ok (lower name) := rfl

end Category

/-- The known categories, by lower-case name. -/
structure Categories where
  /-- The categories by lower-case name. -/
  table : Table String Category

namespace Categories

/-- No categories. -/
def empty : Categories := ⟨.empty⟩

/-- Add a category, replacing one whose name differs at most in case. -/
def add (categories : Categories) (category : Category) : Except Fault Categories :=
  category.lowerName.map fun name => ⟨categories.table.insert name category⟩

/-- The category of a name in any case. The empty name names none. -/
def get? (categories : Categories) (name : Value) : Except Fault (Option Category) :=
  if name.truthy then do
    let name ← name.textFor "lower"
    return categories.table.get? (lower name)
  else .ok none

/-- What is logged when a category is added. -/
def addedNotice (category : Category) : Except Fault Notice := do
  let name ← category.name.printed
  let leading ← category.defaultPrefix.printed
  return .debug "CategoryHandler" ("Added category: " ++ name ++ " (" ++ leading ++ ")")

end Categories

/-- Where a line was written: in a message, if it comes from one, and in a guild, if that has
settings. -/
structure Context where
  /-- The message. -/
  message : Option Message
  /-- The guild. -/
  guild : Option Guild

end CommandRouter
