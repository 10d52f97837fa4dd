import CommandRouter.Bot.Database
import CommandRouter.Bot.Status
import CommandRouter.Config
import CommandRouter.Dispatch
import CommandRouter.Modules

/-!
# The bot

A bot is created with its command table and is not connected to a database. Setting it up
connects the database and publishes the command table; when the chat is ready the bot says so in
its status; closing it closes the database and takes the status back.

## Main definitions

* `Bot` is the state of a bot.
* `Bot.create` loads the command modules and makes the bot.
* `Bot.setUp`, `Bot.ready`, `Bot.receive` and `Bot.close` are the steps of its life.
* `Bot.health` and `Bot.listing` are what it publishes.
-/

namespace CommandRouter

/-- The state of a bot. -/
structure Bot where
  /-- The settings. -/
  config : Config
  /-- The command table. -/
  registry : Registry
  /-- The repository of guild settings. -/
  repository : GuildRepository
  /-- The connection to the database. -/
  database : Database
  /-- The published status. -/
  status : Status
  /-- Whether the command table is published. -/
  listed : Bool
  /-- The runs of handlers so far. -/
  past : List Call
  /-- The time. -/
  clock : Value
  /-- Whether the bot has been closed. -/
  closed : Bool
  /-- The names of the signals that arrived after the bot had been closed. -/
  lateSignals : List String

namespace Bot

/-- A bot that has just been created. -/
def fresh (room : Room) (config : Config) (registry : Registry) : Bot where
  config := config
  registry := registry
  repository := .create false .absent config.cacheLifetime room
  database := .initial
  status := .initial
  listed := false
  past := []
  clock := .int 0
  closed := false
  lateSignals := []

/-- Add the categories and load the command modules. -/
def loadCommands (library : Library) (categories : List Category) (modules : Value) :
    Action Roster Unit := do
  Roster.addCategories categories
  let _ ← Roster.loadModules library modules

/-- Create a bot with the given categories and command modules. Registration errors propagate,
so a bot whose commands are configured incorrectly is never started. -/
def create (room : Room) (library : Library) (config : Config) (categories : List Category)
    (modules : Value) : Action Roster Bot := do
  loadCommands library categories modules
  let roster ← Action.get
  return fresh room config roster.registry

/-- Run an action on the connection to the database. -/
def onDatabase {α : Type} (action : Action Database α) : Action Bot α :=
  Action.zoom database (fun database bot => { bot with database }) action

/-- Run an action on the repository of guild settings. -/
def onRepository {α : Type} (action : Action GuildRepository α) : Action Bot α :=
  Action.zoom repository (fun repository bot => { bot with repository }) action

/-- The bot with its repository connected to a pool, or disconnected. -/
def connect (bot : Bot) (pool : Option Pool) : Bot :=
  let source := bot.repository.source
  let source := match pool with
    | some pool => { source with connected := true, store := pool.store }
    | none => { source with connected := false }
  { bot with repository := { bot.repository with source } }

/-- Set the bot up: connect the database and publish the command table. -/
def setUp (backend : Backend) : Action Bot Unit := do
  Action.log (.info "Client" "Setting up bot...")
  let bot ← Action.get
  let pool ← onDatabase (Database.start backend bot.config.databaseUrl)
  Action.modify fun bot => { bot.connect pool with listed := true }
  Action.log (.info "Client" "Bot setup complete")

/-- Note that the chat is ready. -/
def ready : Action Bot Unit := do
  Action.modify fun bot =>
    { bot with status := Status.update bot.status (Status.readyFields bot.clock) }
  Action.log (.info "Client" "Logged in as: None")
  let bot ← Action.get
  Action.log (.info "Client" ("Serving " ++ toString bot.registry.size ++ " commands"))

/-- The part of the bot that dispatches messages. -/
def dispatcher (bot : Bot) : Dispatcher := ⟨bot.registry, true, bot.past⟩

/-- The bot after the runs of handlers in a trace. -/
def note (events : List Event) (bot : Bot) : Bot :=
  { bot with past := (bot.dispatcher.after events).past }

/-- Receive a message. The result says whether a command ran to its end. -/
def receive (message : Message) : Action Bot Bool := do
  let bot ← Action.get
  Action.noting note (onRepository (bot.dispatcher.handle bot.clock message))

/-- Close the bot. If the database cannot be closed, the bot stays as it is. -/
def close : Action Bot Unit := do
  Action.log (.info "Client" "Shutting down bot...")
  onDatabase Database.close
  Action.modify fun bot =>
    { bot with status := Status.update bot.status Status.offlineFields, closed := true }

/-- The published command table, if it is published. -/
def published (bot : Bot) : Option Registry :=
  if bot.listed then some bot.registry else none

/-- The health report. -/
def health (bot : Bot) : Except Fault Health :=
  Status.health bot.status bot.clock bot.database.isOpen bot.published

/-- The published list of commands. -/
def listing (bot : Bot) : Except Fault (List Listing) :=
  (bot.published.map Registry.listing).getD (.ok [])

end Bot

end CommandRouter
