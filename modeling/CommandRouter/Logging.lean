import CommandRouter.Logging.Level
import CommandRouter.Table
import CommandRouter.Text.DottedName

/-!
# Logging

Loggers form a hierarchy by their dotted names, with the top logger above all others. A record
passes a logger if it reaches the effective level of that logger, and is then written by every
handler of the logger and of those above it whose own level it reaches.

A logger that has been set up has exactly one handler; a logger that is only mentioned is bare.
Changing the default level moves the loggers that have handlers and leaves the bare ones alone.

## The hierarchy grows

A logger comes into being when it is first mentioned. It is then put below the nearest logger above
it, and the loggers that it comes to stand above are put below it. The names passed on the way up
are reserved, so that changing the default level reaches them too, and makes bare loggers of them.

A logger is put below a new one only if the name of the logger it was below does not start with the
name of the new one. As the top logger is called `root`, this never happens for the names `r`, `ro`
and `roo`: what already stood below the top stays there.

## Verdicts

Whether a level passes a logger is found out once and then remembered until a level is set. Making a
bare logger sets no level, so a verdict may be older than the hierarchy.

## Refused levels and names

The default level is any value, and whether it is a level is found out when a logger is moved to it.
A refused level is a fault, but what was done before stays: the value is the default, and the logger
for which the level was meant has been mentioned.

## Main definitions

* `Notice` is what a component wants to log.
* `Logger` has a level, the levels of its handlers, and its place in the hierarchy.
* `Logging` is the default level together with the top logger and the known ones.
* `Logging.setUp`, `Logging.setDefault` and `Logging.log` are the three operations.
* `Logging.nameOf` is the name that a value gives to a logger.
-/

namespace CommandRouter

/-- A message for the log, addressed to a logger by name. -/
structure Notice where
  /-- The name of the logger. -/
  logger : String
  /-- The level of the message. -/
  level : Level
  /-- The text of the message. -/
  text : String
  deriving Repr, DecidableEq

/-- A written line of the log. -/
structure LogRecord where
  /-- The name of the level. -/
  level : String
  /-- The text, which starts with the name of the logger. -/
  text : String
  deriving Repr, DecidableEq

namespace Notice

/-- A debugging message. -/
def debug (logger text : String) : Notice := ⟨logger, LogLevel.debug.level, text⟩

/-- A message about a normal event. -/
def info (logger text : String) : Notice := ⟨logger, LogLevel.info.level, text⟩

/-- A message about something unexpected. -/
def warning (logger text : String) : Notice := ⟨logger, LogLevel.warning.level, text⟩

/-- A message about a failure. -/
def error (logger text : String) : Notice := ⟨logger, LogLevel.error.level, text⟩

/-- The line that a handler writes for a message, under the name of a logger. -/
def record (notice : Notice) (name : String) : LogRecord :=
  ⟨notice.level.name, "[" ++ name ++ "] " ++ notice.text⟩

end Notice

/-- The state of a logger. -/
structure Logger where
  /-- The level of the logger; zero means that of the nearest logger above it with a level. -/
  level : Level
  /-- The levels of the handlers. -/
  handlers : List Level
  /-- The name of the logger directly above it, unless that is the top logger. -/
  above : Option String
  /-- Whether a message passed, for each level at which one came in since a level was last set. -/
  verdicts : Table Int Bool
  deriving DecidableEq

namespace Logger

/-- A logger that has not been set up, below another one. -/
def bare (above : Option String) : Logger := ⟨.unset, [], above, .empty⟩

/-- The logger with one handler, both at a level. -/
def configured (logger : Logger) (level : Level) : Logger :=
  { logger with level, handlers := [level] }

/-- The logger with all its handlers, all at a level. -/
def moved (logger : Logger) (level : Level) : Logger :=
  { logger with level, handlers := logger.handlers.map fun _ => level }

/-- Whether a logger has been set up. -/
def isConfigured (logger : Logger) : Bool := !logger.handlers.isEmpty

end Logger

/-- The default level together with the loggers. -/
structure Logging where
  /-- The level of loggers that are set up without a level. -/
  defaultLevel : Value
  /-- The logger above all others. -/
  top : Logger
  /-- The known loggers by name. A name that only occurs above others is reserved: it has no logger
  yet. -/
  known : Table String (Option Logger)

namespace Logging

/-- The name of the top logger. -/
def topName : String := "root"

/-- Whether a name is one of the top logger, which answers to no name as well. -/
def isTop (name : String) : Bool := name.isEmpty || name == topName

/-- The name that a value gives to a logger. What does not count as present is the empty name. -/
def nameOf (value : Value) : Except Fault String :=
  match value with
  | .text name => .ok name
  | value => if value.truthy then .error .unnamedLogger else .ok ""

/-- No loggers yet but the top one, which has the level of warnings. -/
def initial (defaultLevel : Level) : Logging :=
  ⟨defaultLevel.toValue, { Logger.bare none with level := LogLevel.warning.level }, .empty⟩

/-- The known logger of a name, apart from the top one. -/
def logger? (logging : Logging) (name : String) : Option Logger :=
  (logging.known.get? name).join

/-- The state of the logger of a name. -/
def logger (logging : Logging) (name : String) : Logger :=
  if isTop name then logging.top else (logging.logger? name).getD (.bare none)

/-- The logging with another state of the logger of a name. -/
def replace (logging : Logging) (name : String) (logger : Logger) : Logging :=
  if isTop name then { logging with top := logger }
  else { logging with known := logging.known.insert name (some logger) }

/-- Forget all verdicts, as is done when a level is set. -/
def forgetVerdicts (logging : Logging) : Logging where
  defaultLevel := logging.defaultLevel
  top := { logging.top with verdicts := .empty }
  known := logging.known.mapValues fun logger =>
    logger.map fun logger => { logger with verdicts := .empty }

/-! ### New loggers -/

/-- The name of the nearest logger among names, nearest first, and the names passed before it. -/
def nearest (logging : Logging) : List String → List String × Option String
  | [] => ([], none)
  | name :: later =>
    if (logging.logger? name).isSome then ([], some name)
    else
      let (passed, found) := logging.nearest later
      (name :: passed, found)

/-- Reserve a name, unless it is known. -/
def reserve (logging : Logging) (name : String) : Logging :=
  if logging.known.contains name then logging
  else { logging with known := logging.known.insert name none }

/-- Whether a new logger comes to stand directly above a known one. -/
def adopts (name below : String) (logger : Logger) : Bool :=
  (namesAbove below).contains name &&
    !name.toList.isPrefixOf (logger.above.getD topName).toList

/-- Make a bare logger of a name that has none. -/
def create (logging : Logging) (name : String) : Logging :=
  let (passed, above) := logging.nearest (namesAbove name)
  let adopted := logging.known.mapEntries fun below logger =>
    logger.map fun logger =>
      if adopts name below logger then { logger with above := some name } else logger
  passed.foldl reserve { logging with known := adopted.insert name (some (.bare above)) }

/-- Mention a logger: it exists from now on, bare if it is new. -/
def mention (logging : Logging) (name : String) : Logging :=
  if isTop name || (logging.logger? name).isSome then logging else logging.create name

/-! ### Levels -/

/-- Set a logger up with one handler, at a level. -/
def setUpAt (logging : Logging) (name : String) (level : Level) : Logging :=
  let logging := logging.mention name
  (logging.replace name ((logging.logger name).configured level)).forgetVerdicts

/-- Set a logger up with one handler, at the level that a value gives, or at the default level. -/
def setUp (logging : Logging) (name : String) (level : Option Value) :
    Except Fault Unit × Logging :=
  match Level.ofValue (level.getD logging.defaultLevel) with
  | .ok level => (.ok (), logging.setUpAt name level)
  | .error fault => (.error fault, logging.mention name)

/-- Set loggers up at a level, one after another. -/
def setUpAll (logging : Logging) (names : List String) (level : Level) : Logging :=
  names.foldl (fun logging name => logging.setUpAt name level) logging

/-- Mention loggers, and move those that have handlers to the level that a value gives. -/
def moveAll (level : Value) : List String → Logging → Except Fault Unit × Logging
  | [], logging => (.ok (), logging)
  | name :: later, logging =>
    let logging := logging.mention name
    let logger := logging.logger name
    if logger.isConfigured then
      match Level.ofValue level with
      | .ok moved => moveAll level later (logging.replace name (logger.moved moved)).forgetVerdicts
      | .error fault => (.error fault, logging)
    else moveAll level later logging

/-- Make a level the default and move every logger with handlers to it. -/
def setDefault (logging : Logging) (level : Value) : Except Fault Unit × Logging :=
  moveAll level logging.known.keys { logging with defaultLevel := level }

/-! ### The way up -/

/-- The loggers from a name up to the top, nearest first. The number bounds the length of the way:
the name of the logger above another one is shorter. -/
def wayUp (logging : Logging) : Nat → Option String → List Logger
  | 0, _ => [logging.top]
  | _, none => [logging.top]
  | n + 1, some name =>
    match logging.logger? name with
    | none => [logging.top]
    | some logger => logger :: logging.wayUp n logger.above

/-- The loggers from a name up to the top, nearest first. -/
def chain (logging : Logging) (name : String) : List Logger :=
  logging.wayUp (name.length + 1) (if isTop name then none else some name)

/-- The level that a message must reach to pass a logger. -/
def effectiveLevel (logging : Logging) (name : String) : Level :=
  (((logging.chain name).map Logger.level).find? fun level => level.rank != 0).getD .unset

/-- Whether a message passes its logger, if that has not been found out before. -/
def isEnabled (logging : Logging) (notice : Notice) : Bool :=
  decide (0 < notice.level.rank) &&
    decide ((logging.effectiveLevel notice.logger).rank ≤ notice.level.rank)

/-- Whether a message passes its logger. -/
def passes (logging : Logging) (notice : Notice) : Bool :=
  ((logging.logger notice.logger).verdicts.get? notice.level.rank).getD (logging.isEnabled notice)

/-- The lines written for a message, one for each handler that it reaches. -/
def emit (logging : Logging) (notice : Notice) : List LogRecord :=
  if logging.passes notice then
    (((logging.chain notice.logger).flatMap Logger.handlers).filter fun level =>
      level.rank ≤ notice.level.rank).map fun _ =>
        notice.record (if isTop notice.logger then topName else notice.logger)
  else []

/-- Remember whether a message passes its logger. -/
def remember (logging : Logging) (notice : Notice) : Logging :=
  let logger := logging.logger notice.logger
  logging.replace notice.logger
    { logger with
      verdicts := logger.verdicts.insert notice.level.rank (logging.passes notice) }

/-- Log a message through a logger, which exists from now on. -/
def log (logging : Logging) (notice : Notice) : List LogRecord × Logging :=
  let logging := logging.mention notice.logger
  (logging.emit notice, logging.remember notice)

end Logging

end CommandRouter
