import CodeGate.Settings.Decode

/-!
# Command line arguments

`[--log-level X] [--config X] serve [--backend X] [--addr X] [--database-url X] [--auth-token-env X]`,
where the first two options may also stand behind `serve`. Arguments are read from
left to right. An option whose value is an argument of its own takes effect when the next option does, or
at the end; so what is wrong with it is told then.

Follows `Cli`, `Commands` and `ServeArgs`, read as `clap` reads them; section 10.4 of the specification.
-/

namespace CodeGate.CommandLine

open CodeGate.Settings (Backend)

/-- The options. -/
inductive OptionName where
  | logLevel
  | config
  | backend
  | addr
  | databaseUrl
  | authTokenEnv
  deriving DecidableEq, Repr

/-- How an option is written behind two dashes. -/
def OptionName.word : OptionName → String
  | logLevel => "log-level"
  | config => "config"
  | backend => "backend"
  | addr => "addr"
  | databaseUrl => "database-url"
  | authTokenEnv => "auth-token-env"

/-- Whether an option takes a value. -/
def OptionName.accepts (name : OptionName) (value : String) : Bool :=
  name ≠ backend || (Backend.ofWord? value).isSome

/-- What is told about. -/
inductive Topic where
  | program
  | serve
  | help
  deriving DecidableEq, Repr

/-- Why the arguments are no order to serve. -/
inductive Stop where
  | help (topic : Topic)
  | version
  | nothingAsked
  | missingCommand
  | unknownCommand
  | unknownArgument
  | badValue
  | repeatedOption
  | valueForFlag
  deriving DecidableEq, Repr

/-- The options given so far, with their values. -/
abbrev Given := List (OptionName × String)

/-- An option that has not taken effect: one that waits for its value, or has it. -/
inductive Pending where
  | none
  | waiting (name : OptionName)
  | complete (name : OptionName) (value : String)
  deriving DecidableEq, Repr

/-- Adds an option that may be given once. -/
def addOption (name : OptionName) (value : String) (given : Given) : Except Stop Given :=
  if (given.lookup name).isSome then .error .repeatedOption
  else if name.accepts value then .ok ((name, value) :: given)
  else .error .badValue

/-- Lets a pending option take effect. -/
def Pending.settle (given : Given) : Pending → Except Stop Given
  | none => .ok given
  | waiting _ => .error .badValue
  | complete name value => addOption name value given

/-- A level of the command line: what may be said there. -/
structure Level where
  topic : Topic
  options : List OptionName
  hasVersion : Bool
  hasCommands : Bool

/-- The level in front of the command. -/
def programLevel : Level := ⟨.program, [.logLevel, .config], true, true⟩

/-- The level behind the command. -/
def serveLevel : Level :=
  ⟨.serve, [.backend, .addr, .databaseUrl, .authTokenEnv, .logLevel, .config], false, false⟩

/-- The command to serve. -/
def serveCommand : String := "serve"

/-- The command to tell about commands. -/
def helpCommand : String := "help"

/-- A long argument behind its dashes: its name, and the value behind an equals sign. -/
def cutLong (cs : List Char) : String × Option String :=
  let name := cs.takeWhile (· ≠ '=')
  (String.ofList name,
    match cs.drop name.length with
    | _ :: value => some (String.ofList value)
    | [] => none)

/-- What a long argument comes to: the options given, and what is pending now. -/
def takeLong (level : Level) (given : Given) (pending : Pending) (name : String) (value : Option String) :
    Except Stop (Given × Pending) :=
  let flag (stop : Stop) : Except Stop (Given × Pending) :=
    if value.isSome then .error .valueForFlag
    else do
      let _ ← pending.settle given
      throw stop
  match level.options.find? (·.word = name) with
  | some option => do
    let given ← pending.settle given
    match value with
    | none => pure (given, .waiting option)
    | some value =>
      let given ← addOption option value given
      pure (given, .none)
  | none =>
    if name = "help" then flag (.help level.topic)
    else if name = "version" ∧ level.hasVersion then flag .version
    else .error .unknownArgument

/-- What a short argument comes to: none of them goes on. -/
def takeShort (level : Level) (given : Given) (pending : Pending) (letter : Char) : Except Stop Unit := do
  if letter = 'h' then
    let _ ← pending.settle given
    throw (.help level.topic)
  else if letter = 'V' ∧ level.hasVersion then
    let _ ← pending.settle given
    throw .version
  else throw .unknownArgument

/-- Why an argument that is no option may not stand where it does; `escaped` says that it is behind two
dashes. -/
def refuse (level : Level) (escaped : Bool) (arg : String) : Stop :=
  if level.hasCommands && !(escaped && (arg = serveCommand || arg = helpCommand)) then .unknownCommand
  else .unknownArgument

/-- Where reading a level ends: the options given, what is pending, and the arguments behind the command
if there is one. -/
structure Reached where
  given : Given
  pending : Pending
  command : Option (String × List String)

/-- Reads the arguments of a level. -/
def readLevel (level : Level) (given : Given) (pending : Pending) (escaped : Bool) :
    List String → Except Stop Reached
  | [] => .ok ⟨given, pending, none⟩
  | arg :: args =>
    let awaited : Bool := match pending with
      | .waiting _ => true
      | _ => false
    if escaped then .error (refuse level true arg)
    else if level.hasCommands && !awaited && (arg = serveCommand || arg = helpCommand) then
      .ok ⟨given, pending, some (arg, args)⟩
    else
      match arg.toList with
      | ['-', '-'] => readLevel level given pending true args
      | '-' :: '-' :: cs =>
        let (name, value) := cutLong cs
        match takeLong level given pending name value with
        | .error stop => .error stop
        | .ok (given, pending) => readLevel level given pending false args
      | '-' :: letter :: _ =>
        match takeShort level given pending letter with
        | .error stop => .error stop
        | .ok () => readLevel level given pending false args
      | _ =>
        match pending with
        | .waiting name => readLevel level given (.complete name arg) false args
        | _ => .error (refuse level false arg)

/-- What a request for help is about. -/
def helpTopic : List String → Stop
  | [] => .help .program
  | [arg] =>
    if arg = serveCommand then .help .serve
    else if arg = helpCommand then .help .help
    else .unknownCommand
  | _ => .unknownCommand

/-- The flags of the command to serve. -/
structure ServeFlags where
  backend : Option Backend := none
  addr : Option String := none
  databaseUrl : Option String := none
  authTokenEnv : Option String := none
  deriving DecidableEq, Repr

/-- An order to serve. -/
structure Invocation where
  logLevel : String := "info"
  config : Option String := none
  serve : ServeFlags := {}
  deriving DecidableEq, Repr

/-- The order in the options of both levels; behind the command they count more. -/
def Invocation.ofOptions (front back : Given) : Invocation where
  logLevel := ((back.lookup .logLevel).or (front.lookup .logLevel)).getD "info"
  config := (back.lookup .config).or (front.lookup .config)
  serve := {
    backend := (back.lookup .backend).bind Backend.ofWord?
    addr := back.lookup .addr
    databaseUrl := back.lookup .databaseUrl
    authTokenEnv := back.lookup .authTokenEnv }

/-- The order in the arguments, or why there is none. -/
def readArguments (args : List String) : Except Stop Invocation := do
  let front ← readLevel programLevel [] .none false args
  match front.command with
  | none =>
    let given ← front.pending.settle front.given
    throw (if given.isEmpty then .nothingAsked else .missingCommand)
  | some (command, args) =>
    if command = helpCommand then throw (helpTopic args)
    else
      let back ← readLevel serveLevel [] .none false args
      let backGiven ← back.pending.settle back.given
      let frontGiven ← front.pending.settle front.given
      pure (Invocation.ofOptions frontGiven backGiven)

end CodeGate.CommandLine
