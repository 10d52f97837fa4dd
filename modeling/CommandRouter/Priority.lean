import CommandRouter.Fault
import CommandRouter.Text.Blank
import CommandRouter.Text.LetterCase

/-!
# Priorities

When several commands match the same line, the one with the highest priority wins. Commands of
the lowest priority, `ignored`, answer to their prefix but are left out of the search by bare
trigger.

## Main definitions

* `Priority` is one of six levels, with `Priority.rank` and `Priority.name`.
* `Priority.ofName` looks a level up by its name, in any case and with blanks around it.
-/

namespace CommandRouter

/-- How strongly a command asserts itself against others that match the same line. -/
inductive Priority where
  /-- Never found without its prefix. -/
  | ignored
  /-- The lowest level that is found without a prefix. -/
  | lowest
  /-- Below normal. -/
  | low
  /-- The level of commands that do not say otherwise. -/
  | normal
  /-- Above normal. -/
  | high
  /-- The highest level. -/
  | highest
  deriving Repr, DecidableEq

namespace Priority

/-- All levels, lowest first. -/
def all : List Priority := [ignored, lowest, low, normal, high, highest]

/-- The rank of a level; higher wins. -/
def rank : Priority → Nat
  | ignored => 0
  | lowest => 1
  | low => 2
  | normal => 3
  | high => 4
  | highest => 5

/-- The name of a level. -/
def name : Priority → String
  | ignored => "IGNORED"
  | lowest => "LOWEST"
  | low => "LOW"
  | normal => "NORMAL"
  | high => "HIGH"
  | highest => "HIGHEST"

/-- Whether one level wins against another. -/
def exceeds (a b : Priority) : Bool :=
  decide (b.rank < a.rank)

/-- The level with exactly this name. -/
def ofExactName? (name : String) : Option Priority :=
  all.find? fun level => level.name == name

/-- The level with this name in any case, with blanks around it. -/
def ofName (name : String) : Except Fault Priority :=
  match ofExactName? (upperAscii (trim name)) with
  | some level => .ok level
  | none => .error (.unknownPriority name)

end Priority

end CommandRouter
