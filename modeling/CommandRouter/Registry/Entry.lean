import CommandRouter.Command

/-!
# Entries of the command table

An entry pairs a command with the category it was registered under. The triggers of an entry are
those the command had when it was registered; name and priority are those it has now. The triggers
are kept because the table has been checked for them: a later change of the definition cannot make
two entries share a full trigger.

A full trigger is the sum of a prefix and a trigger, which are texts unless the configuration is
odd. It is lower-cased as it is compared, so one that is no string is a fault only then, and only if
no trigger before it was the one that was looked for.

## Main definitions

* `Entry` is a registered command, and `Entry.answers` decides whether a token reaches it.
* `Match` is an entry as it was reached: directly, or through an alias that carries arguments.

## Main results

* `isFullTrigger_texts` and `isTrigger_texts` are the comparisons where all triggers are texts.
-/

namespace CommandRouter

/-- A registered command with its category. -/
structure Entry where
  /-- The command. -/
  command : Command
  /-- The category it was registered under. -/
  category : Category
  /-- The triggers it had when it was registered. -/
  triggers : List Value

/-! ### Comparing triggers -/

/-- Whether a lower-case string is one of some triggers behind a prefix. -/
def isFullTrigger (token leading : Value) : List Value → Except Fault Bool
  | [] => .ok false
  | trigger :: later => do
    let full ← (← leading.add trigger).lowered
    if token.sameKey full then return true else isFullTrigger token leading later

/-- Whether a lower-case string is one of some triggers. -/
def isTrigger (word : Value) : List Value → Except Fault Bool
  | [] => .ok false
  | trigger :: later => do
    if word.sameKey (← trigger.lowered) then return true else isTrigger word later

theorem isFullTrigger_texts (token leading : String) (triggers : List String) :
    isFullTrigger (.text token) (.text leading) (triggers.map Value.text) =
      .ok (triggers.any fun trigger => token == lower (leading ++ trigger)) := by
  induction triggers with
  | nil => rfl
  | cons trigger later ih =>
    rw [List.map_cons, isFullTrigger, List.any_cons]
    cases same : token == lower (leading ++ trigger) <;>
      simp [same, bind, Except.bind, pure, Except.pure, ih]

theorem isTrigger_texts (word : String) (triggers : List String) :
    isTrigger (.text word) (triggers.map Value.text) =
      .ok (triggers.any fun trigger => word == lower trigger) := by
  induction triggers with
  | nil => rfl
  | cons trigger later ih =>
    rw [List.map_cons, isTrigger, List.any_cons]
    cases same : word == lower trigger <;>
      simp [same, bind, Except.bind, pure, Except.pure, ih]

namespace Entry

/-- The name of the command. -/
def name (entry : Entry) : Name := entry.command.name

/-- The priority of the command. -/
def priority (entry : Entry) : Rating := entry.command.priority

/-- The prefix of the command where nothing replaces it. -/
def defaultPrefix (entry : Entry) : Value := entry.category.defaultPrefix

/-- The prefix that the command answers to in a context. -/
def prefixIn (entry : Entry) (context : Option Context) : Except Fault Value :=
  entry.command.prefixIn context entry.category

/-- Whether a lower-case string is a trigger of the command behind its default prefix. -/
def owns (entry : Entry) (fullTrigger : Value) : Except Fault Bool :=
  isFullTrigger fullTrigger entry.defaultPrefix entry.triggers

/-- Whether a lower-case token is a trigger of the command behind its prefix in a context. -/
def answers (entry : Entry) (context : Option Context) (token : Value) : Except Fault Bool := do
  isFullTrigger token (← entry.prefixIn context) entry.triggers

/-- Whether a lower-case word is a trigger of the command. -/
def hasTrigger (entry : Entry) (word : Value) : Except Fault Bool := isTrigger word entry.triggers

end Entry

/-- An entry as it was reached by a line. -/
inductive Match where
  /-- By one of its own triggers, or by an alias that adds nothing. -/
  | direct (entry : Entry)
  /-- By an alias that puts arguments in front of those of the line. The match then goes by the
  triggers that the command has now. -/
  | aliased (entry : Entry) (triggers arguments : List Value)

namespace Match

/-- The match of an entry through an alias with arguments. -/
def throughAlias (entry : Entry) (arguments : List Value) : Except Fault Match :=
  entry.command.triggers.items.map fun triggers => aliased entry triggers arguments

/-- The entry that was reached. -/
def entry : Match → Entry
  | direct entry => entry
  | aliased entry _ _ => entry

/-- The triggers that the match goes by. -/
def triggers : Match → List Value
  | direct entry => entry.triggers
  | aliased _ triggers _ => triggers

/-- The arguments that come from the alias. -/
def aliasArguments : Match → List Value
  | direct _ => []
  | aliased _ _ arguments => arguments

/-- The arguments of the command when the line adds its own. -/
def arguments (found : Match) (typed : List Value) : List Value :=
  found.aliasArguments ++ typed

/-- The arguments that a line adds: all its words but the first, which is the command. -/
def typedArguments (line : String) : List String := (words line).drop 1

/-- The arguments of the command for a line whose first word is the command. -/
def argumentsOf (found : Match) (line : String) : List Value :=
  found.arguments ((typedArguments line).map Value.text)

/-- The name of the way an entry was reached. -/
def kindName : Match → String
  | direct _ => "CommandContainer"
  | aliased _ _ _ => "AliasCommandContainer"

/-- The text that a match is shown as. -/
def summary (found : Match) : Except Fault String := do
  let leading ← found.entry.defaultPrefix.printed
  let triggers ← (Value.list found.triggers).enclosed
  return "<" ++ found.kindName ++ " " ++ found.entry.name.inner ++ " " ++ leading ++ triggers ++ ">"

end Match

end CommandRouter
