import CommandRouter.Action
import CommandRouter.Registry.Basic
import CommandRouter.Sorting

/-!
# Status, health and the listing of commands

The bot publishes its status: a table of fields, a health report, and the list of its commands.

## Main definitions

* `Status` is the table of fields with the initial ones.
* `Health` is a health report, and `Status.health` makes one.
* `Listing` describes a command, and `Listing.sorted` puts descriptions in a canonical order.
* `Registry.listing` lists all commands.
-/

namespace CommandRouter

/-- The published fields. -/
abbrev Status := Table String Value

/-- A health report. -/
structure Health where
  /-- Whether the bot is connected to the chat. -/
  connected : Bool
  /-- Whether the database is connected. -/
  database : Bool
  /-- Full seconds since the bot was ready. -/
  uptime : Int
  /-- The number of registered commands. -/
  commands : Nat
  deriving Repr, DecidableEq

namespace Health

/-- The status code of a report. -/
def code (health : Health) : Nat := if health.connected then 200 else 503

/-- The summary of a report. -/
def summary (health : Health) : String := if health.connected then "healthy" else "degraded"

/-- The word for a connection. -/
def connectionWord (connected : Bool) : String :=
  if connected then "connected" else "disconnected"

end Health

/-- The description of the bot itself. -/
structure Identity where
  /-- The name of the bot. -/
  name : String
  /-- The version of the bot. -/
  version : String
  /-- The published status. -/
  status : Value

/-- The description of a command. -/
structure Listing where
  /-- The name of the command. -/
  name : Value
  /-- The name of its category. -/
  category : Value
  /-- Its default prefix. -/
  defaultPrefix : Value
  /-- Its triggers. -/
  triggers : List Value
  /-- Its priority. -/
  priority : Priority

namespace Listing

/-- The description of an entry, whose priority must be a level. -/
def ofEntry (entry : Entry) : Except Fault Listing :=
  (entry.priority.levelFor "name").map fun priority =>
    ⟨entry.name.value, entry.category.name, entry.defaultPrefix, entry.triggers, priority⟩

/-- Whether one command comes before another: by category, and by name within a category. -/
def before (a b : Listing) : Except Fault Bool :=
  Value.compare .less (.list [a.category, a.name]) (.list [b.category, b.name])

/-- The category and the name of a command by their code points, if both are strings. -/
def heading? (listing : Listing) : Option (List Nat × List Nat) := do
  return (← listing.category.codes?, ← listing.name.codes?)

/-- Whether one heading is not after another: by category, and by name within a category. -/
def headingAtMost (a b : List Nat × List Nat) : Bool :=
  decide (a.1 < b.1) || (a.1 == b.1 && !decide (b.2 < a.2))

/-- Commands by category and name; equal ones keep their order. Strings are in a total order, so
every sorting that is stable gives the same list. Values of other kinds need not be comparable. -/
def sorted (commands : List Listing) : Except Fault (List Listing) :=
  match commands.mapM fun command => command.heading?.map fun heading => (heading, command) with
  | some headed => .ok ((headed.mergeSort fun a b => headingAtMost a.1 b.1).map Prod.snd)
  | none => sortBy before commands

end Listing

namespace Registry

/-- The descriptions of all commands, by category and name; equal ones in registration order. -/
def listing (registry : Registry) : Except Fault (List Listing) := do
  Listing.sorted (← registry.entries.mapM Listing.ofEntry)

end Registry

namespace Status

/-- The fields before the bot is ready. -/
def initial : Status :=
  .ofList [("status", .text "starting"), ("discord_connected", .bool false), ("ready_at", .null)]

/-- Fields with names that are texts. A field of another name is a fault. -/
def namedFields : List (Value × Value) → Except Fault (List (String × Value))
  | [] => .ok []
  | (.text name, value) :: later => do return (name, value) :: (← namedFields later)
  | _ => .error .unnamedField

/-- Replace or add fields. -/
def update (status : Status) (fields : List (String × Value)) : Status :=
  fields.foldl (fun status field => status.insert field.1 field.2) status

/-- The fields that say that the bot is ready since a time. -/
def readyFields (now : Value) : List (String × Value) :=
  [("status", .text "ready"), ("discord_connected", .bool true), ("ready_at", now)]

/-- The fields that say that the bot is gone. -/
def offlineFields : List (String × Value) := [
  ("status", .text "offline"), ("discord_connected", .bool false), ("ready_at", .null)]

/-- The description of the bot itself. -/
def identity (status : Status) : Identity :=
  ⟨"Orion", "1.0.0", (status.get? "status").getD (.text "unknown")⟩

/-- The integer part of a number. -/
def wholePart : Number → Except Fault Int
  | .int n => .ok n
  | .float x =>
    match x.truncate? with
    | some n => .ok n
    | none => .error (.notFinite x.isNaN)

/-- Full seconds from a time that a field gives until now. -/
def elapsed (now since : Value) : Except Fault Int :=
  match since with
  | .null => .ok 0
  | since => do wholePart (← now.sub since)

/-- The health report at a time. A report whose figures cannot be written is a fault. -/
def health (status : Status) (now : Value) (databaseOpen : Bool) (registry : Option Registry) :
    Except Fault Health := do
  let uptime ← elapsed now ((status.get? "ready_at").getD .null)
  if isTooLong uptime then throw .tooLongToWrite
  return {
    connected := ((status.get? "discord_connected").getD .null).truthy
    database := databaseOpen
    uptime := uptime
    commands := (registry.map Registry.size).getD 0 }

end Status

end CommandRouter
