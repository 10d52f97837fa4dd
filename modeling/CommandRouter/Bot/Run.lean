import CommandRouter.Bot.Basic
import CommandRouter.Report

/-!
# Running a bot

A run checks the settings, creates the bot, starts the status server, and then follows what
happens to the bot until the chat connection ends. Whatever ends it, the bot is closed. The
program reports how the run ended by its exit code.

## Where a run may end

Settings that cannot be used and commands that are configured incorrectly end a run before the
chat connection is started; then there is no bot to close. Later faults are logged, and the bot is
closed after them. A fault while closing is the one that is reported, since it comes last. An
interruption by the user is not logged as a fault, but it too closes the bot. Only the closing that
a signal asks for may fail without ending the run; at the end it is tried again.

A signal that arrives when the bot is closed already is late: nobody waits for what it asks for, so
it is dealt with after everything else. Then the bot is closed once more for each late signal, which
matters if the database has been opened again.

## Main definitions

* `Occasion` is something that happens to a running bot.
* `RunEvent` is what the run shows of itself, and `RunSummary` how it ended.
* `Bot.run` is a run, and `Bot.runProgram` a run with the messages and exit code of the program.
-/

namespace CommandRouter

/-- Something that happens to a running bot. -/
inductive Occasion where
  /-- The chat library asks the bot to set itself up. -/
  | setUp
  /-- The chat is ready. -/
  | ready
  /-- The bot is closed. -/
  | close
  /-- A message arrives. -/
  | message (message : Message)
  /-- The chat connection fails. -/
  | fault (fault : Fault)
  /-- The health report is asked for. -/
  | health
  /-- The list of commands is asked for. -/
  | commands
  /-- Time goes on. -/
  | clock (now : Value)
  /-- The process receives a signal. -/
  | signal (name : String)

/-- What comes of an occasion. -/
inductive Consequence where
  /-- Nothing to show. -/
  | nothing
  /-- What was sent. -/
  | sent (contents : List Value)
  /-- A health report. -/
  | health (health : Health)
  /-- A list of commands. -/
  | listing (commands : List Listing)
  /-- Whether the bot is closed. -/
  | closed (closed : Bool)

/-- What a run shows of itself. -/
inductive RunEvent where
  /-- The status server started. -/
  | served (host tcpPort : Value)
  /-- The chat connection started. -/
  | started (token : Value) (report : Report)
  /-- Something happened to the bot. -/
  | happened (occasion : Occasion) (consequence : Consequence) (report : Report)

/-- How a run went. -/
structure RunSummary where
  /-- What the run showed of itself. -/
  events : List RunEvent
  /-- Whether the bot is closed, if it was started. -/
  closed : Option Bool
  /-- The published status. -/
  status : Status
  /-- Whether the database is open. -/
  database : Bool
  /-- What happened after the last event. -/
  trailing : Report
  /-- The fault with which the run ended, if it did. -/
  fault : Option Fault

namespace Bot

/-- Say that a signal has arrived. -/
def noteSignal (name : String) : Action Bot Unit :=
  Action.log (.info "Client" ("Received " ++ name ++ ", shutting down..."))

/-- Close the bot. That it cannot be closed does no harm. -/
def tryClose : Action Bot Unit :=
  Action.recover close fun _ => return ()

/-- What comes of an occasion. -/
def follow (backend : Backend) (occasion : Occasion) : Action Bot Consequence := do
  match occasion with
  | .setUp => setUp backend; return .nothing
  | .ready => ready; return .nothing
  | .close => close; return .nothing
  | .message message =>
    let (_, events) ← (receive message).listen
    let taken ← Action.ofExcept (message.channel.taken (events.filterMap Event.sent?))
    return .sent taken
  | .fault fault => Action.raise fault
  | .health =>
    let bot ← Action.get
    let health ← Action.ofExcept bot.health
    return .health health
  | .commands =>
    let bot ← Action.get
    let commands ← Action.ofExcept bot.listing
    return .listing commands
  | .clock now => Action.modify fun bot => { bot with clock := now }; return .nothing
  | .signal name =>
    let bot ← Action.get
    if bot.closed then
      Action.set { bot with lateSignals := bot.lateSignals ++ [name] }
      return .closed true
    else
      noteSignal name
      tryClose
      let bot ← Action.get
      return .closed bot.closed

/-- How the occasions went: what the run showed, the bot that is left, what happened after the
last event, and the fault of the occasion that ended the run, if one did. -/
structure Progress where
  /-- What the run showed of itself. -/
  events : List RunEvent
  /-- The bot that is left. -/
  bot : Bot
  /-- What happened after the last event. -/
  trailing : List Event
  /-- The fault that ended the run. -/
  fault : Option Fault

/-- Follow occasions until one of them ends with a fault. -/
def followAll (logging : Logging) (backend : Backend) (bot : Bot) : List Occasion → Progress
  | [] => ⟨[], bot, [], none⟩
  | occasion :: later =>
    let outcome := follow backend occasion bot
    match outcome.result with
    | .error fault => ⟨[], outcome.state, outcome.events, some fault⟩
    | .ok consequence =>
      let rest := followAll logging backend outcome.state later
      let report := Report.ofEvents logging outcome.events
      { rest with events := .happened occasion consequence report :: rest.events }


/-- Close a bot that is not closed yet. -/
def ensureClosed : Action Bot Unit := do
  let bot ← Action.get
  if bot.closed then return () else close

/-- Deal with the signals that arrived late: all are noted before the bot is closed for the first
of them. -/
def settle : Action Bot Unit := do
  let bot ← Action.get
  bot.lateSignals.forM noteSignal
  bot.lateSignals.forM fun _ => tryClose

/-- Tell of the fault with which following the occasions ended, if it did, close the bot, and deal
with late signals. A fault while closing takes the place of the one before. -/
def finish (fault : Option Fault) : Action Bot Unit := do
  let ended : Except Fault Unit := fault.elim (.ok ()) .error
  let told ← Action.attempt <|
    Action.telling (fun message => .error "Client" ("Bot error: " ++ message))
      (Action.ofExcept ended)
  ensureClosed
  settle
  Action.ofExcept told

/-- What is logged when the status server has started. Who starts it does not wait for it, so that
the port cannot be named does no harm. -/
def greeting (config : Config) : List Event :=
  match config.keepAlive.truthy, config.tcpPort.printed with
  | true, .ok tcpPort =>
    [.logged (.info "KeepAlive" ("Keep-alive server listening on port " ++ tcpPort))]
  | _, _ => []

/-- A run of a bot that has been created: start the status server and the chat connection, follow
the occasions, and finish. -/
def live (logging : Logging) (backend : Backend) (occasions : List Occasion) (before : Report)
    (bot : Bot) : RunSummary :=
  let config := bot.config
  let served := if config.keepAlive.truthy then [RunEvent.served config.host config.tcpPort] else []
  let started := RunEvent.started config.token (before.append (.ofEvents logging (greeting config)))
  let progress := followAll logging backend bot occasions
  let closing := finish progress.fault progress.bot
  { events := served ++ started :: progress.events
    closed := some closing.state.closed
    status := closing.state.status
    database := closing.state.database.isOpen
    trailing := .ofEvents logging (progress.trailing ++ closing.events)
    fault := match closing.result with
      | .ok _ => none
      | .error fault => some fault }

/-- A run that ended before the bot was started. -/
def refused (before : Report) (fault : Fault) : RunSummary :=
  ⟨[], none, .initial, false, before, some fault⟩

/-- A run: check the settings, create the bot, and let it live. -/
def run (logging : Logging) (room : Room) (library : Library) (backend : Backend)
    (config : Config) (occasions : List Occasion) (before : Report) : RunSummary :=
  match config.validate with
  | .error fault => refused before fault
  | .ok _ =>
    let logging := if config.debug.truthy then
        (logging.setDefault LogLevel.debug.level.toValue).2
      else logging
    let created := create room library config Category.defaults config.modules (.create .empty)
    let before := before.append (.ofEvents logging created.events)
    match created.result with
    | .error fault => refused before fault
    | .ok bot => live logging backend occasions before bot

/-! ### The program -/

/-- The last message of the program and its exit code, for the fault with which the run ended. -/
def verdict (fault : Fault) : Except Fault (Notice × Nat) :=
  if fault.isInterrupt then .ok (.info "Main" "Bot stopped by user", 0)
  else
    fault.message.map fun message =>
      if fault.isConfiguration then
        (.error "Main" ("Invalid command configuration: " ++ message), 1)
      else (.error "Main" ("Fatal error: " ++ message), 1)

/-- A run with the first and last messages of the program. The second component is the exit code,
if the program exits before its end. A fault that has no message leaves the program with another
one. -/
def runProgram (logging : Logging) (room : Room) (library : Library) (backend : Backend)
    (config : Config) (occasions : List Occasion) : RunSummary × Option Nat :=
  let greeting := Report.ofEvents logging [.logged (.info "Main" "Starting Orion...")]
  let summary := run logging room library backend config occasions greeting
  match summary.fault with
  | none => (summary, none)
  | some fault =>
    match verdict fault with
    | .error reason => ({ summary with fault := some reason }, none)
    | .ok (notice, code) =>
      let last := Report.ofEvents logging [.logged notice]
      ({ summary with trailing := summary.trailing.append last, fault := none }, some code)

end Bot

end CommandRouter
