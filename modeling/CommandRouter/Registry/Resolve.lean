import CommandRouter.Registry.Basic
import CommandRouter.Registry.Best

/-!
# Resolving a line

The first word of a line, in lower case, is the token that selects a command. Without an alias it
must be a trigger of the command behind the prefix that the command has in the context. Of the
commands that match, the `best` one is taken.

A guild alias applies when the token starts with it. The words of its target then replace the
token: the first one selects a command as above, and the others become its first arguments.

## Several aliases

Aliases may overlap, since `p` and `pi` both are beginnings of `ping`. Every alias that applies
proposes a command, and the priorities of the commands decide; neither the length of an alias nor
the rest of the token counts. A target that selects nothing proposes nothing, and it is not looked
up among the aliases again, so that aliases cannot lead in a circle.

## Faults

Prefixes, aliases, targets and priorities may be values of the wrong kind. The prefix of every
command is looked up before any command is selected, so one guild prefix that is no string stops the
resolution of every line in its guild. A target is looked at only if its alias applies, and a
priority only if its command is a candidate.

## Main definitions

* `firstToken` is the token of a line.
* `Registry.resolve` finds the command of a line, `Registry.resolveBare` one by a bare trigger.
* `Registry.resolveAlias` follows the aliases, and `Registry.resolveWithAlias` does so when
  nothing matches directly.
-/

namespace CommandRouter

/-- The first word of a line in lower case, or the empty text if there is none. -/
def firstToken (line : String) : String :=
  match words line with
  | [] => ""
  | word :: _ => lower word

namespace Registry

/-- The first of several candidates with the highest priority. Every candidate must have a level. -/
def bestOf {α : Type} (entry : α → Entry) (candidates : List α) : Except Fault (Option α) := do
  let ranked ← candidates.mapM fun candidate =>
    (entry candidate).priority.rank.map fun priority => (candidate, priority)
  return (best Prod.snd ranked).map Prod.fst

/-- The entry that a lower-case token selects in a context. -/
def resolveToken (registry : Registry) (token : Value) (context : Option Context) :
    Except Fault (Option Entry) := do
  bestOf id (← selectWhere (fun entry => entry.answers context token) registry.entries)

/-- The entry that the first word of a line selects in a context. -/
def resolve (registry : Registry) (line : String) (context : Option Context) :
    Except Fault (Option Entry) :=
  let token := firstToken line
  if token.isEmpty then .ok none else registry.resolveToken (.text token) context

/-- The entry that a bare trigger selects. Commands of priority `ignored` are left out. -/
def resolveBare (registry : Registry) (trigger : String) : Except Fault (Option Entry) :=
  if trigger.isEmpty then .ok none
  else do
    bestOf id (← selectWhere (fun entry => entry.hasTrigger (.text (lower trigger)))
      (registry.entries.filter fun entry => !entry.priority.isIgnored))

/-! ### Aliases -/

/-- Whether a token starts with an alias that counts as present. A string that is no text is the
beginning of no token. -/
def aliasApplies (token : String) : Value → Except Fault Bool
  | .text word => .ok (!word.isEmpty && word.toList.isPrefixOf token.toList)
  | .ragged _ => .ok false
  | word => if word.truthy then .error (.notABeginning word.kindName) else .ok false

/-- The entry that a word selects in a context. -/
def resolveWord (registry : Registry) (word : Value) (context : Option Context) :
    Except Fault (Option Entry) :=
  match word with
  | .text word => registry.resolve word context
  | word => do registry.resolveToken (← word.lowered) context

/-- The command that the target of an alias selects, with the words that follow. -/
def target? (registry : Registry) (context : Option Context) (target : Value) :
    Except Fault (Option (Entry × List Value)) := do
  match ← target.wordsOf with
  | [] => return none
  | word :: arguments =>
    return (← registry.resolveWord word context).map fun entry => (entry, arguments)

/-- The commands that the aliases of a token select, in the order of the aliases. -/
def aliasTargets (registry : Registry) (context : Option Context) (token : String) :
    List (Value × Value) → Except Fault (List (Entry × List Value))
  | [] => .ok []
  | (word, target) :: later => do
    if ← aliasApplies token word then
      let found ← registry.target? context target
      let others ← registry.aliasTargets context token later
      return found.toList ++ others
    else registry.aliasTargets context token later

/-- The match of a command that was selected through an alias. -/
def reached (entry : Entry) (arguments : List Value) : Except Fault Match :=
  if arguments.isEmpty then .ok (.direct entry) else Match.throughAlias entry arguments

/-- The command that the aliases of a guild select for a line. -/
def resolveAlias (registry : Registry) (line : String) (context : Option Context)
    (guild : Option Guild) : Except Fault (Option Match) :=
  let token := firstToken line
  match guild with
  | none => .ok none
  | some guild =>
    if token.isEmpty then .ok none
    else do
      let targets ← registry.aliasTargets context token guild.aliasPairs
      match ← bestOf Prod.fst targets with
      | none => return none
      | some (entry, arguments) => return some (← reached entry arguments)

/-- The command that a line selects, directly or else through an alias of the guild. -/
def resolveWithAlias (registry : Registry) (line : String) (context : Option Context)
    (guild : Option Guild) : Except Fault (Option Match) := do
  match ← registry.resolve line context with
  | some entry => return some (.direct entry)
  | none => registry.resolveAlias line context guild

end Registry

end CommandRouter
