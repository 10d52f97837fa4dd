import CommandRouter.Guild.Settings
import CommandRouter.Message

/-!
# Handlers

A handler is what a command leads to, and it may do as it likes: what it sends, what it makes of the
settings that it is given and whether it fails may depend on everything that it is told, and on the
runs of handlers before. So a handler may count, keep notes, and share them with other handlers.

The settings that a handler is given are not a copy. If it changes them, whoever remembers them
remembers them changed.

## Main definitions

* `Call` is a run of a handler, with all that the handler is told.
* `Reaction` is what comes of it.
* `Handler` is a handler. `Handler.scripted` is one that always does the same.
-/

namespace CommandRouter

/-- A run of a handler. -/
structure Call where
  /-- The name of the handler. -/
  handler : Value
  /-- The message that has led to the run. -/
  message : Message
  /-- The arguments of the command. -/
  arguments : List Value
  /-- The settings of the guild that the handler is given. -/
  guild : Option GuildSettings

/-- What a handler does in a run. -/
structure Reaction where
  /-- What it sends, in order. -/
  sent : List Value := []
  /-- The settings as it leaves them, if it has changed those that it was given. -/
  edited : Option GuildSettings := none
  /-- The fault that ends the run, if there is one. -/
  failure : Option Fault := none

/-- How a run ends. -/
def Reaction.result (reaction : Reaction) : Except Fault Unit :=
  match reaction.failure with
  | some fault => .error fault
  | none => .ok ()

/-- What a command leads to. -/
structure Handler where
  /-- The name of the handler. Handlers of one name are one handler. -/
  name : Value
  /-- What it does in a run, after some earlier runs of handlers. -/
  react : List Call → Call → Reaction

/-- A handler that replies in the channel, if it has a reply, and may fail afterwards. -/
def Handler.scripted (name : Value) (reply : Option Value) (failure : Option Fault) : Handler where
  name := name
  react _ call :=
    match reply, call.message.channel.delivery with
    | none, _ => { failure }
    | some content, .ok () => { sent := [content], failure }
    | some _, .error fault => { failure := some fault }

end CommandRouter
