import CommandRouter.Action

/-!
# Reports

What an action did to the world outside is read off its trace: the lines that the log writes at
its present levels, the statements, the runs of handlers, and the texts that were sent.

## Main definitions

* `Report` is what a trace amounts to, and `Report.ofEvents` makes one.
* `Logging.starting` is the state of the log before a router is made, and `Logging.application` the
  state in which a router works.
-/

namespace CommandRouter

/-- What a trace amounts to. -/
structure Report where
  /-- The lines written to the log. -/
  logs : List LogRecord
  /-- The statements sent to the database, as texts with their parameters. -/
  statements : List (String × List Value)
  /-- The runs of handlers. -/
  calls : List Call
  /-- What was sent to channels. -/
  sent : List Value

namespace Report

/-- What a trace amounts to when the log has the given levels. -/
def ofEvents (logging : Logging) (events : List Event) : Report where
  logs := (events.filterMap Event.notice?).flatMap logging.emit
  statements := events.filterMap Event.statement?
  calls := events.filterMap Event.call?
  sent := events.filterMap Event.sent?

/-- The report of two traces, one after the other. -/
def append (first second : Report) : Report where
  logs := first.logs ++ second.logs
  statements := first.statements ++ second.statements
  calls := first.calls ++ second.calls
  sent := first.sent ++ second.sent

/-- The report of a trace in which nothing happened. -/
def empty : Report := ⟨[], [], [], []⟩

end Report

namespace Logging

/-- The names under which the router logs from the start. -/
def lastingNames : List String :=
  ["Main", "Client", "Database", "KeepAlive", "CommandLoader", "DiscordUtils"]

/-- The names under which the parts of a router log, from when they are made. -/
def partNames : List String :=
  ["CategoryHandler", "CommandRegistry", "GuildRepository", "TableRepository", "Command"]

/-- The level of all loggers at the start. -/
def startingLevel (debug : Bool) : Level :=
  if debug then LogLevel.debug.level else LogLevel.info.level

/-- The state of the log before any part of a router is made. -/
def starting (debug : Bool) : Logging :=
  (initial (startingLevel debug)).setUpAll lastingNames (startingLevel debug)

/-- The state of the log when the parts of a router are there. -/
def application (debug : Bool) : Logging :=
  (starting debug).setUpAll partNames (startingLevel debug)

end Logging

end CommandRouter
