import CommandRouter.Bot.Database
import CommandRouter.Bot.Status
import CommandRouter.Dispatch
import CommandRouter.Modules
import CommandRouter.Report

/-!
# The operator's console

The console puts the parts of the router side by side, so that an operator can try them one by
one: commands are made and registered under names of the operator's choice, lines are resolved,
messages are dispatched, and the repository, the modules, the status and the database connection
are operated directly.

## Main definitions

* `Console` is the state; `Console.create` opens it.
* The functions of the namespace are the operations; each is an action on the console.
* `Console.report` runs an operation and reports what it did.
-/

namespace CommandRouter

/-- The parts of the router side by side. -/
structure Console where
  /-- The command table. -/
  roster : Roster
  /-- The commands that the operator made, by the keys that the operator's names for them name. A
  name may stand for no command. -/
  commands : Table Key (Option Command)
  /-- The repository of guild settings. -/
  repository : GuildRepository
  /-- Whether dispatching loads the settings of guilds. -/
  loadsGuilds : Bool
  /-- The runs of handlers so far. -/
  past : List Call
  /-- The time. -/
  clock : Value
  /-- How often the time has been set. -/
  readings : Nat
  /-- The modules that can be imported. -/
  library : Library
  /-- The state of the log. -/
  logging : Logging
  /-- The published status. -/
  status : Status
  /-- Whether the command table is published. -/
  listed : Bool
  /-- A database connection, apart from that of the repository. -/
  database : Database

/-- What the operator chooses when a console is opened. -/
structure ConsoleOptions where
  /-- The categories of the command table. -/
  categories : List Category
  /-- Whether dispatching loads the settings of guilds. -/
  loadsGuilds : Bool
  /-- Whether the repository is connected to its store. -/
  connected : Bool
  /-- The engine of the store. -/
  engine : GuildEngine
  /-- The rows of the store. -/
  rows : List (Value × Option Row)
  /-- How long settings are served from memory. -/
  lifetime : Value
  /-- Whether debugging messages are logged. -/
  debug : Bool
  /-- The room for reading the rows of the store. -/
  room : Room
  /-- How many modules may have to be imported one inside the other. -/
  depth : Nat

/-- A change of the definition of a command. -/
inductive Amendment where
  /-- Another name. -/
  | name (name : Name)
  /-- Another description, or none. -/
  | description (description : Value)
  /-- Other triggers. -/
  | triggers (triggers : Value)
  /-- One more trigger, after the others. -/
  | addTrigger (trigger : Value)
  /-- Another category. -/
  | category (category : Value)
  /-- Another priority. -/
  | priority (rating : Rating)
  /-- Other descriptions of the arguments. -/
  | parameters (parameters : Value)
  /-- Other examples. -/
  | examples (examples : Value)
  /-- Another choice whether the command may be used in guilds only. -/
  | guildOnly (guildOnly : Value)
  /-- A change of something that no definition has. -/
  | nothing

namespace Amendment

/-- The change that gives another value to a field of the definition. A priority is given by the
name of its level. -/
def ofField (field : String) (value : Value) : Except Fault Amendment :=
  match field with
  | "name" => (Name.ofValue value).map name
  | "description" => .ok (description value)
  | "triggers" => .ok (triggers value)
  | "category" => .ok (category value)
  | "priority" => (Rating.ofMember value).map priority
  | "args" => .ok (parameters value)
  | "examples" => .ok (examples value)
  | "guild_only" => .ok (guildOnly value)
  | _ => .ok nothing

/-- The definition after a change. Only to a list of triggers can one be added. -/
def apply (amendment : Amendment) (definition : Definition) : Except Fault Definition :=
  match amendment with
  | name changed => .ok { definition with name := changed }
  | description changed => .ok { definition with description := changed }
  | triggers changed => .ok { definition with triggers := changed }
  | addTrigger added =>
    match definition.triggers with
    | .list items => .ok { definition with triggers := .list (items ++ [added]) }
    | other => .error (.lacks other.kindName "append")
  | category changed => .ok { definition with category := changed }
  | priority changed => .ok { definition with priority := changed }
  | parameters changed => .ok { definition with parameters := changed }
  | examples changed => .ok { definition with examples := changed }
  | guildOnly changed => .ok { definition with guildOnly := changed }
  | nothing => .ok definition

/-- The part of a command by which a change goes about its work. -/
def feature : Amendment → String
  | addTrigger _ => "triggers"
  | _ => "definition"

end Amendment

/-- How an entry presents itself in a context. -/
structure Presentation where
  /-- The text that the match is shown as. -/
  summary : String
  /-- The default prefix of its category. -/
  defaultPrefix : Value
  /-- The prefix that its command answers to in the context. -/
  contextPrefix : Value
  /-- The arguments that it makes of given ones, if any were given. -/
  arguments : Option (List Value)

namespace Console

variable {α : Type}

/-- A console without commands. -/
def initial (options : ConsoleOptions) : Console where
  roster := .create .empty
  commands := .empty
  repository := .create options.connected ⟨options.engine.toEngine, .ofList options.rows, []⟩
    options.lifetime options.room
  loadsGuilds := options.loadsGuilds
  past := []
  clock := .int 0
  readings := 0
  library := .empty options.depth
  logging := .application options.debug
  status := .initial
  listed := false
  database := .initial

/-- Run an operation and report what it did, at the levels that the log had before. -/
def report (operation : Action Console α) (console : Console) :
    Except Fault α × Report × Console :=
  let outcome := operation console
  (outcome.result, .ofEvents console.logging outcome.events, outcome.state)

/-- Run an action on the command table. -/
def onRoster (action : Action Roster α) : Action Console α :=
  Action.zoom roster (fun roster console => { console with roster }) action

/-- Run an action on the repository. -/
def onRepository (action : Action GuildRepository α) : Action Console α :=
  Action.zoom repository (fun repository console => { console with repository }) action

/-- Run an action on the database connection. -/
def onDatabase (action : Action Database α) : Action Console α :=
  Action.zoom database (fun database console => { console with database }) action

/-- Ask a question about the state. -/
def ask (question : Console → α) : Action Console α := do
  let console ← Action.get
  return question console

/-! ### Categories and commands -/

/-- Add the categories with which a console is opened. -/
def addCategories (categories : List Category) : Action Console Unit :=
  onRoster (Roster.addCategories categories)

/-- The command under an operator's name; nothing stands for no command. -/
def command? (name : Value) : Action Console (Option Command) := do
  let console ← Action.get
  if name matches .null then return none
  else if !name.isKey then Action.raise (.notAKey name.kindName)
  else
    match name.key?.bind console.commands.get? with
    | some command => return command
    | none => Action.raise (.unknownMember name.inner)

/-- The command under an operator's name, of which a feature is needed. No command has none. -/
def command (feature : String) (name : Value) : Action Console Command := do
  match ← command? name with
  | some command => return command
  | none => Action.raise (.lacks "NoneType" feature)

/-- Remember a command, or that there is none, under a name, which must be fit for a key. -/
def remember (name : Value) (command : Option Command) : Action Console Unit :=
  match name.key? with
  | some key =>
    Action.modify fun console => { console with commands := console.commands.insert key command }
  | none => if name.isKey then return () else Action.raise (.notAKey name.kindName)

/-- Make a command from a blueprint, if there is one. -/
def make (blueprint : Except Fault Blueprint) : Action Console Command := do
  let blueprint ← Action.ofExcept blueprint
  onRoster (Roster.make blueprint)

/-- Make a command and remember it under a name. The name is not looked at before. -/
def makeNamed (name : Except Fault Value) (blueprint : Except Fault Blueprint) :
    Action Console Command := do
  let command ← make blueprint
  let name ← Action.ofExcept name
  remember name (some command)
  return command

/-- Change the definition of a command, wherever the command is known. -/
def amend (name : Value) (amendment : Amendment) : Action Console Unit := do
  let command ← command amendment.feature name
  let definition ← Action.ofExcept (amendment.apply command.definition)
  Action.modify fun console =>
    { console with
      commands := console.commands.mapValues fun named => named.map fun other =>
        if other.instanceId = command.instanceId then { other with definition } else other
      roster := { console.roster with
        registry := console.roster.registry.redefine command.instanceId definition } }

/-- Whether two commands are the same. -/
def isSame (a b : Value) : Action Console Bool := do
  let first ← command "is_same" a
  let second ← command? b
  return (second.map first.isSame).getD false

/-- The category that a command names, if it is known. -/
def categoryOf (name : Value) : Action Console (Option Category) := do
  let console ← Action.get
  match ← command? name with
  | none => return none
  | some command => Action.ofExcept (console.roster.registry.categories.ofCommand command)

/-- Register a command that is made or looked up. If it is given a name, it is remembered under
the name first, whether it can be registered or not. -/
def register (found : Action Console (Option Command)) (name : Option Value)
    (category : Except Fault (Option Category)) : Action Console Match := do
  let command ← found
  match name with
  | some name => remember name command
  | none => pure ()
  let category ← Action.ofExcept category
  let entry ← onRoster (Roster.register command category)
  return .direct entry

/-! ### Resolution -/

/-- The line that a value is. What does not count as present is the empty line. -/
def lineOf (input : Value) : Except Fault String :=
  if input.truthy then input.textFor "split" else .ok ""

/-- Find the command of a line in a context. -/
def resolve (input : Value) (context : Option Context) : Action Console (Option Match) := do
  let console ← Action.get
  let line ← Action.ofExcept (lineOf input)
  let entry ← Action.ofExcept (console.roster.registry.resolve line context)
  return entry.map .direct

/-- Find the command that the aliases of a guild select for a line. Where there are no aliases the
line is not looked at. -/
def resolveAlias (input : Value) (context : Option Context) (guild : Option Guild) :
    Action Console (Option Match) := do
  let console ← Action.get
  if ((guild.map Guild.aliasPairs).getD []).isEmpty then return none
  else
    let line ← Action.ofExcept (lineOf input)
    Action.ofExcept (console.roster.registry.resolveAlias line context guild)

/-- Find the command of a line, directly or else through an alias. -/
def resolveWithAlias (input : Value) (context : Option Context) (guild : Option Guild) :
    Action Console (Option Match) := do
  let console ← Action.get
  let line ← Action.ofExcept (lineOf input)
  Action.ofExcept (console.roster.registry.resolveWithAlias line context guild)

/-- Find a command by a bare trigger. -/
def resolveBare (trigger : Value) : Action Console (Option Match) := do
  let console ← Action.get
  let trigger ← Action.ofExcept (if trigger.truthy then trigger.textFor "lower" else .ok "")
  let entry ← Action.ofExcept (console.roster.registry.resolveBare trigger)
  return entry.map .direct

/-- The entry of a command. -/
def entryOf (name : Value) : Action Console (Option Match) := do
  let console ← Action.get
  let command ← command? name
  return (command.bind console.roster.registry.entryOf?).map .direct

/-- The entry of a command, as if it had been reached through an alias if there are arguments of
one. Only an entry can be reached through an alias. -/
def reachedAs (name : Value) (aliasArguments : Option Value) : Action Console (Option Match) := do
  match ← entryOf name, aliasArguments with
  | found, none => return found
  | none, some _ => Action.raise (.lacks "NoneType" "command")
  | some found, some arguments =>
    let reached ← Action.ofExcept (Match.throughAlias found.entry [])
    let arguments ← Action.ofExcept arguments.items
    return some (.aliased reached.entry reached.triggers arguments)

/-- The arguments that a match makes of given ones. Only one through an alias makes any. -/
def builtArguments (found : Match) (given : Value) : Except Fault (List Value) :=
  match found with
  | .direct _ => .error (.lacks found.kindName "build_arguments")
  | .aliased _ _ _ => given.items.map found.arguments

/-- How the entry of a command presents itself in a context. That there is no proper context is
noticed only if there is an entry. -/
def present (name : Value) (context : Except Fault (Option Context))
    (aliasArguments arguments : Option Value) : Action Console Presentation := do
  match ← reachedAs name aliasArguments with
  | none => Action.raise (.lacks "NoneType" "default_prefix")
  | some found =>
    let context ← Action.ofExcept context
    let contextPrefix ← Action.ofExcept (found.entry.prefixIn context)
    let summary ← Action.ofExcept found.summary
    let built ← match arguments with
      | none => pure none
      | some given => some <$> Action.ofExcept (builtArguments found given)
    return ⟨summary, found.entry.defaultPrefix, contextPrefix, built⟩

/-- The arguments of the command of an entry for a line. -/
def argumentsOf (line name : Value) (aliasArguments : Option Value) :
    Action Console (List Value) := do
  let found ← reachedAs name aliasArguments
  let line ← Action.ofExcept (line.textFor "split")
  match found with
  | some found => return found.argumentsOf line
  | none => return (Match.typedArguments line).map Value.text

/-! ### Messages and guilds -/

/-- Dispatch a message. The result says whether a command ran to its end, and what was sent. -/
def dispatch (message : Message) : Action Console (Bool × List Value) := do
  let console ← Action.get
  let dispatcher : Dispatcher := ⟨console.roster.registry, console.loadsGuilds, console.past⟩
  let dispatching := onRepository (dispatcher.handle console.clock message)
  let (handled, events) ← (Action.noting (fun events console =>
    { console with past := (dispatcher.after events).past }) dispatching).listen
  return (handled, events.filterMap Event.sent?)

/-- The settings of a guild. -/
def fetchGuild (id : Value) : Action Console (Option GuildSettings) := do
  let console ← Action.get
  onRepository (GuildRepository.fetch console.clock id)

/-- Store the settings of a guild. What has no settings is noticed only where they are stored. -/
def saveGuild (guild : Option Guild) : Action Console (Option GuildSettings) := do
  let console ← Action.get
  match Guild.storable guild with
  | .ok settings => onRepository (GuildRepository.save settings)
  | .error fault =>
    if console.repository.source.connected then Action.raise fault
    else onRepository GuildRepository.saveNothing

/-- Forget one guild, or every guild. -/
def invalidate (id : Value) : Action Console Unit :=
  onRepository (GuildRepository.change fun repository => repository.invalidate id)

/-- Change the store behind the repository's back. -/
def changeStore (change : Store → Store) : Action Console Unit :=
  onRepository (Action.modify fun repository =>
    { repository with
      source := { repository.source with store := change repository.source.store } })

/-- Connect the repository to its store, or disconnect it. -/
def connect (connected : Bool) : Action Console Unit :=
  onRepository (Action.modify fun repository =>
    { repository with source := { repository.source with connected } })

/-- Set the time. The readings are told apart by the marks of what is not a number in them. -/
def setClock (now : Value) : Action Console Unit :=
  Action.modify fun console =>
    let readings := console.readings + 1
    { console with clock := now.marked readings, readings }

/-! ### Modules, status and logging -/

/-- Define a module. -/
def define (name : String) (module : CommandModule) : Action Console Unit :=
  Action.modify fun console => { console with library := console.library.define name module }

/-- Load a module. -/
def loadModule (path : String) : Action Console Unit := do
  let console ← Action.get
  onRoster (Roster.loadModule console.library path)

/-- Load modules. -/
def loadModules (paths : Value) : Action Console (List String) := do
  let console ← Action.get
  onRoster (Roster.loadModules console.library paths)

/-- Replace or add fields of the status, which must be named by texts. -/
def updateStatus (fields : List (Value × Value)) : Action Console Unit := do
  let fields ← Action.ofExcept (Status.namedFields fields)
  Action.modify fun console => { console with status := Status.update console.status fields }

/-- Publish the command table, or take it back. -/
def publish (listed : Bool) : Action Console Unit :=
  Action.modify fun console => { console with listed }

/-- The published command table, if it is published. -/
def published (console : Console) : Option Registry :=
  if console.listed then some console.roster.registry else none

/-- The health report. -/
def health : Action Console Health := do
  let console ← Action.get
  Action.ofExcept
    (Status.health console.status console.clock console.database.isOpen console.published)

/-- The published list of commands. -/
def listing : Action Console (List Listing) := do
  let console ← Action.get
  Action.ofExcept ((console.published.map Registry.listing).getD (.ok []))

/-- Start and stop the status server. -/
def serve : Action Console Unit := do
  Action.log (.info "KeepAlive" "Keep-alive server starting...")
  Action.log (.info "KeepAlive" "Keep-alive server shutting down...")

/-- Open the database connection. The result says whether there is one. -/
def startDatabase (backend : Backend) (url : Value) : Action Console Bool := do
  let pool ← onDatabase (Database.start backend url)
  return pool.isSome

/-- Make a level the default of the log. -/
def setLogLevel (level : Value) : Action Console Unit := do
  let console ← Action.get
  let (result, logging) := console.logging.setDefault level
  Action.set { console with logging }
  Action.ofExcept result

end Console

end CommandRouter
