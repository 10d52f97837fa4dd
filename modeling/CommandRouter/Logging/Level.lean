import CommandRouter.Fault
import CommandRouter.Value

/-!
# Levels of the log

A level says how urgent a message is, and how urgent messages must be to be written. It is a number
in any case, but it may be given as a truth value, which counts as a number and is shown as it was
given, or by a name. What is neither is refused where the level is needed.

## Main definitions

* `LogLevel` is one of the levels in common use.
* `Level` is any level, with `Level.rank` as its number.
* `Level.ofValue` is the level that a value gives.
-/

namespace CommandRouter

/-- The levels in common use. -/
inductive LogLevel where
  /-- Details for the developer. -/
  | debug
  /-- Normal events. -/
  | info
  /-- Something unexpected that does not stop the work. -/
  | warning
  /-- A failure. -/
  | error
  /-- A failure that stops the program. -/
  | critical
  deriving Repr, DecidableEq

/-- A level of a logger, a handler or a message. -/
inductive Level where
  /-- A level given by its number. -/
  | number (n : Int)
  /-- A level given by a truth value. -/
  | truth (b : Bool)
  deriving Repr, DecidableEq

namespace LogLevel

/-- The number of a level; higher is more urgent. -/
def value : LogLevel → Int
  | debug => 10
  | info => 20
  | warning => 30
  | error => 40
  | critical => 50

/-- A level in common use as any other level. -/
def level (level : LogLevel) : Level := .number level.value

end LogLevel

namespace Level

/-- The level that does not say anything, so that the one of the logger above counts. -/
def unset : Level := .number 0

/-- The number of a level; higher is more urgent. -/
def rank : Level → Int
  | number n => n
  | truth b => if b then 1 else 0

/-- The value by which a level is given. -/
def toValue : Level → Value
  | number n => .int n
  | truth b => .bool b

/-- The name of a level. -/
def name (level : Level) : String :=
  if level.rank = 10 then "DEBUG"
  else if level.rank = 20 then "INFO"
  else if level.rank = 30 then "WARNING"
  else if level.rank = 40 then "ERROR"
  else if level.rank = 50 then "CRITICAL"
  else "Level " ++ level.toValue.display

/-- The levels that have a name. Some have two. -/
def named : List (String × Level) := [
  ("CRITICAL", LogLevel.critical.level), ("FATAL", LogLevel.critical.level),
  ("ERROR", LogLevel.error.level), ("WARN", LogLevel.warning.level),
  ("WARNING", LogLevel.warning.level), ("INFO", LogLevel.info.level),
  ("DEBUG", LogLevel.debug.level), ("NOTSET", unset)]

/-- The level that is an integer or a truth value. -/
def numbered? : Value → Option Level
  | .int n => some (number n)
  | .bool b => some (truth b)
  | _ => none

/-- The level that a value gives, by its number or by its name. -/
def ofValue (value : Value) : Except Fault Level :=
  match numbered? value, value with
  | some level, _ => .ok level
  | none, .text name =>
    match named.lookup name with
    | some level => .ok level
    | none => .error (.unknownLevel value.inner)
  | none, .ragged _ => .error (.unknownLevel value.inner)
  | none, _ => .error (.notALevel value.inner)

@[simp] theorem ofValue_toValue (level : Level) : ofValue level.toValue = .ok level := by
  cases level <;> rfl

end Level

end CommandRouter
