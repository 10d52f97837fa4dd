import CommandRouter.Channel
import CommandRouter.Guild.Repository
import CommandRouter.Registry.Resolve
import CommandRouter.Text.Cleaning

/-!
# Dispatching a message

A message of a person is cleaned, the settings of its guild are loaded, its first word selects a
command, and the handler of that command is run with the other words. A guild whose settings
cannot be loaded is treated as one without settings. A failing handler is reported in the channel
and does not stop the router.

## What is looked at when

The author and the cleaned text are examined before anything else is done, so a message of a bot
and a message without visible text leave no trace at all. The guild is loaded before the line is
resolved, because its prefixes and aliases take part; whether the command may be used outside of
guilds is examined last, because only then is it known which command is meant.

A fault of the guild or of the handler is dealt with where it arises, except an interruption by the
user, which ends the dispatching. So does a fault that has no message, since it cannot be told of,
and a guild whose id cannot be read, since the notice about it would have to name it. So does a
fault of the resolution, which means that a command is not made of the right kinds of values.

## Main definitions

* `Dispatcher` is the command table with the choice whether guild settings are loaded.
* `Dispatcher.handle` dispatches a message; its result says whether a handler ran to its end.
-/

namespace CommandRouter

/-- The command table, whether the settings of guilds are loaded, and what has happened so far. -/
structure Dispatcher where
  /-- The command table. -/
  registry : Registry
  /-- Whether there is a repository from which the settings of guilds are loaded. -/
  loadsGuilds : Bool
  /-- The runs of handlers so far, in order. -/
  past : List Call

namespace Dispatcher

/-- The answer to a command that may be used in guilds only. -/
def guildOnlyReply : String := "❌ This command must be used in a server"

/-- The answer when a command failed. -/
def failureReply (name : String) : String :=
  "❌ Something went wrong while running \x60" ++ name ++ "\x60"

/-- The dispatcher after the runs of handlers in a trace. -/
def after (dispatcher : Dispatcher) (events : List Event) : Dispatcher :=
  { dispatcher with past := dispatcher.past ++ events.filterMap Event.call? }

/-- The settings of the guild of a message. A failure to load them is logged. -/
def loadGuild (dispatcher : Dispatcher) (now : Value) (message : Message) :
    Action GuildRepository (Option GuildSettings) :=
  match message.guild with
  | none => return none
  | some guild =>
    if dispatcher.loadsGuilds then
      Action.recover
        (do
          let id ← Action.ofExcept guild
          GuildRepository.fetch now (.text id))
        fun fault => do
          let id ← Action.ofExcept guild
          Action.logFault (fun reason =>
            .error "Command" ("Failed to load guild " ++ id ++ ": " ++ reason)) fault
          return none
    else return none

/-- The repository after the run of a handler for a message. If the handler was given settings and
has changed them, they are as it has left them. -/
def leave (message : Message) (given edited : Option GuildSettings) (repository : GuildRepository) :
    GuildRepository :=
  match message.guild, given, edited with
  | some (.ok id), some _, some settings => repository.edit id settings
  | _, _, _ => repository

/-- Run a handler. -/
def run (dispatcher : Dispatcher) (handler : Handler) (call : Call) :
    Action GuildRepository Unit := do
  let reaction := handler.react dispatcher.past call
  Action.emitAll (.called call :: reaction.sent.map Event.sent)
  Action.modify (leave call.message call.guild reaction.edited)
  Action.ofExcept reaction.result

/-- The call of the handler of a command that a line reached. -/
def callOf (found : Match) (line : String) (guild : Option GuildSettings) (message : Message) :
    Call :=
  ⟨found.entry.command.handler.name, message, found.argumentsOf line, guild⟩

/-- Run the command that a line reached. A failure is logged and reported in the channel. -/
def execute (dispatcher : Dispatcher) (found : Match) (line : String)
    (guild : Option GuildSettings) (message : Message) : Action GuildRepository Bool :=
  let call := callOf found line guild message
  Action.recover
    (do
      Action.log (.debug "Command"
        ("Executing: " ++ found.entry.name.text ++ " " ++ (Value.list call.arguments).inner))
      dispatcher.run found.entry.command.handler call
      return true)
    fun fault => do
      Action.logFault (fun reason =>
        .error "Command" ("Command error (" ++ found.entry.name.text ++ "): " ++ reason)) fault
      let _ ← message.channel.sendSafely (.text (failureReply found.entry.name.text))
      return false

/-- Dispatch a line that is not empty: load the guild, resolve the line and run the command. -/
def handleLine (dispatcher : Dispatcher) (now : Value) (message : Message) (line : String) :
    Action GuildRepository Bool := do
  let guild ← dispatcher.loadGuild now message
  let place := guild.map Guild.settled
  let context : Context := ⟨some message, place⟩
  match ← Action.ofExcept (dispatcher.registry.resolveWithAlias line (some context) place) with
  | none => return false
  | some found =>
    if found.entry.command.guildOnly && message.guild.isNone then
      let _ ← message.channel.sendSafely (.text guildOnlyReply)
      return false
    else dispatcher.execute found line guild message

/-- Dispatch a message. Only messages of persons with something visible in them are looked at. -/
def handle (dispatcher : Dispatcher) (now : Value) (message : Message) :
    Action GuildRepository Bool :=
  let line := clean message.content
  if message.author = .person ∧ ¬line.isEmpty then dispatcher.handleLine now message line
  else return false

end Dispatcher

end CommandRouter
