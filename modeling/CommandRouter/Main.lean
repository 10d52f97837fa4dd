import CommandRouter.Bot.Run
import CommandRouter.Store.Memory

/-!
# The program

The program takes its configuration from the environment and plays the part of the chat itself:
every line of standard input is a message that a person sends to the bot directly. The log and
the answers of the bot are printed, and the exit code says how the run ended.

## Main definitions

* `Program.builtIn` is the library of modules that `COMMAND_MODULES` may name.
* `main` is the program.
-/

namespace CommandRouter

namespace Program

/-- The room for reading the rows of the store. -/
def room : Room := { nesting := 512 }

/-- A command that answers that the bot is alive. -/
def ping : Registration where
  blueprint := {
    config := {
      name := some (.ofText "ping")
      description := .text "Answers that the bot is alive"
      triggers := .list [.text "ping"] }
    handler := .scripted (.text "ping") (some (.text "pong")) none }
  category := none

/-- The modules that can be imported. -/
def builtIn : Library := .ofList 64 [("basics", .loaded (some ⟨[ping], none⟩))]

/-- The message that a line of input stands for. -/
def messageOf (line : String) : Message := ⟨.person, line, none, .working⟩

/-- What happens to the bot: it is set up, the chat is ready, and every line arrives. -/
def occasions (lines : List String) : List Occasion :=
  [.setUp, .ready] ++ lines.map fun line => .message (messageOf line)

/-- The printed lines of a report. -/
def linesOf (report : Report) : List String :=
  (report.logs.map fun record => record.level ++ " " ++ record.text) ++
    report.sent.map Value.display

/-- The printed lines of a run. -/
def transcript (summary : RunSummary) : List String :=
  summary.events.flatMap (fun event =>
    match event with
    | .served host tcpPort => ["serving on " ++ host.display ++ ":" ++ tcpPort.display]
    | .started _ report => linesOf report
    | .happened _ _ report => linesOf report) ++ linesOf summary.trailing

/-- The settings that the environment gives. -/
def environment : IO (Table String String) := do
  let given ← Config.settingNames.filterMapM fun name => do
    return (← IO.getEnv name).map fun value => (name, value)
  return .ofList given

end Program

end CommandRouter

open CommandRouter

/-- Run the bot on the lines of standard input. -/
def main : IO UInt32 := do
  match Config.ofEnvironment (← Program.environment) with
  | .error fault =>
    IO.eprintln (fault.message.toOption.getD "")
    return 1
  | .ok config =>
    let input ← (← IO.getStdin).readToEnd
    let lines := (splitAt '\n' input).filter fun line => !line.isEmpty
    let (summary, exitCode) :=
      Bot.runProgram (.application false) Program.room Program.builtIn { engine := .inMemory }
        config
        (Program.occasions lines)
    for line in Program.transcript summary do
      IO.println line
    return UInt32.ofNat (exitCode.getD 0)
