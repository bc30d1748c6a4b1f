import CodeGate.CommandLine.LogFilter
import CodeGate.CommandLine.Serve
import CodeGate.Settings.Load

/-!
# The whole program

The arguments are read first, then the settings are loaded, and then the gateway is served. The log goes
out in lines, as far as the filter shows it.

Follows `main`; section 10 of the specification.
-/

namespace CodeGate.CommandLine

open CodeGate.Settings

/-- How the program ended: the code it exits with, the first line that it printed, the lines of its log,
and its last words if it failed. -/
structure Outcome where
  exitCode : Nat
  output : Option String := none
  log : List String := []
  report : Option String := none
  deriving DecidableEq, Repr

/-- The first line of what is told about a topic. -/
def Topic.headline : Topic → String
  | program => "codeviz backend server"
  | serve => "Serve HTTP, GraphQL and WebSocket endpoints"
  | help => "Print this message or the help of the given subcommand(s)"

/-- The name of the program and its version. -/
def versionLine : String := "codeviz 0.1.0"

/-- How the program ends if its arguments are no order to serve. -/
def Outcome.ofStop : Stop → Outcome
  | .help topic => { exitCode := 0, output := some topic.headline }
  | .version => { exitCode := 0, output := some versionLine }
  | _ => { exitCode := 2 }

/-- Follows an order to serve; `Except` holds the last words. -/
def obey (order : Invocation) (env : Environment) (files : Files) : Logged Unit :=
  let (settings, log) := load env files order.config
  match settings with
  | .error fault => (.error fault.message, log)
  | .ok settings =>
    let (result, more) := serve order.serve settings env
    (result, log ++ more)

/-- Runs the program. -/
def run (args : List String) (env : Environment) (files : Files) : Outcome :=
  match readArguments args with
  | .error stop => .ofStop stop
  | .ok order =>
    let (result, log) := obey order env files
    let lines := (shown order.logLevel log).map (·.line)
    match result with
    | .ok () => { exitCode := 0, log := lines }
    | .error report => { exitCode := 1, log := lines, report := some report }

end CodeGate.CommandLine
