import CodeGate.CommandLine.Program

/-!
# The program

What the arguments ask for is worked out by `CommandLine.run`. Here the environment and the settings file
are read for it, and its outcome is shown: the output on one stream, the log and the last words on the other.

Follows `main`.
-/

namespace CodeGate

/-- The text of a file, if it can be read. -/
def textAt? (path : String) : IO (Option String) := do
  try
    let text ← IO.FS.readFile path
    return some text
  catch _ =>
    return none

/-- The variables that the program was started with. -/
def startEnvironment : IO Settings.Environment := do
  let block ← textAt? "/proc/self/environ"
  return Settings.Environment.ofBlock (block.getD "")

/-- The file that the arguments name, if it is there. -/
def namedFile (args : List String) (env : Settings.Environment) : IO Settings.Files := do
  let path := (CommandLine.readArguments args).toOption.bind (·.config)
  match path.map (Settings.fromHome env) with
  | none => return fun _ => none
  | some path =>
    let text ← textAt? path
    return fun asked => if asked = path then text else none

end CodeGate

open CodeGate

/-- Runs the program and shows its outcome. -/
def main (args : List String) : IO UInt32 := do
  let env ← startEnvironment
  let files ← namedFile args env
  let outcome := CommandLine.run args env files
  if let some line := outcome.output then IO.println line
  for line in outcome.log do IO.eprintln line
  if let some report := outcome.report then IO.eprintln report
  return outcome.exitCode.toUInt32
