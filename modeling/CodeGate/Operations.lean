import CodeGate.Json.Reader
import CodeGate.Store.Interface
import CodeGate.Store.Path
import CodeGate.UserId

/-!
# The operations

Four operations stand behind every way to reach the gateway. Running and explaining code only pass the
gate; linking an account and saving progress make one write each. Every failure is logged once, where
the operation ends; a store that breaks down ends it before that.

Follows `Operations` and `Resolvers`, with `log_failure`, `store_error` and `run_blocking`; sections 4.2, 5, 7
and 11 of the specification.
-/

namespace CodeGate

open CodeGate.Json CodeGate.Store

/-- What running code gives: the steps taken, and the variables as JSON text. -/
structure ExecutionResult where
  trace : List String
  bindings : String
  deriving DecidableEq, Repr

/-- The result of running nothing. -/
def ExecutionResult.empty : ExecutionResult := ⟨[], "\x7b\x7d"⟩

/-- How an operation ends; it breaks down if its store does. -/
inductive Ending (α : Type) where
  | ok (result : α)
  | failed (failure : Failure)
  | broke
  deriving DecidableEq, Repr

/-- An operation that has run: how it ended, what it logged, and the state of the store. -/
structure Run (σ α : Type) where
  ending : Ending α
  log : List Log.Entry
  state : σ

namespace Operations

/-- The answer to a request for an explanation. -/
def explanationStub : String := "Explanation stub"

/-- The answer to a linked account. -/
def accountLinked : String := "GitHub account linked"

/-- The answer to saved progress. -/
def progressSaved : String := "Progress saved"

/-- The answer to a question for a user's progress. -/
def userProgressStub : String := "User progress stub"

/-- The entry for a failure of an operation with a label. -/
def failureEntry (label : String) : Failure → Log.Entry
  | .tooLong refusal => { level := .error, message := "Validation error: " ++ refusal.message }
  | failure => { level := .error, message := label ++ " error", fields := [("error", failure.message)] }

/-- Runs code in a language: the code passes the gate, and nothing is run. -/
def execute (code lang : String) : Except Failure ExecutionResult × List Log.Entry :=
  match Gate.pass code with
  | .ok _ => (.ok ExecutionResult.empty, [{ level := .info, message := "Executing " ++ lang ++ " code" }])
  | .error refusal => (.error (.tooLong refusal), [failureEntry "Execution" (.tooLong refusal)])

/-- Explains code: the code passes the gate, and every explanation is the same. -/
def explain (code : String) : Except Failure String × List Log.Entry :=
  match Gate.pass code with
  | .ok _ => (.ok explanationStub, [])
  | .error refusal => (.error (.tooLong refusal), [failureEntry "Explanation" (.tooLong refusal)])

/-- A write that an operation makes for a user, once its checks have passed. -/
structure Planned where
  user : String
  call : Write

/-- Runs an operation that makes one write: a failed check comes before the write, and a refusal of
the store is the operation's failure. -/
def runPlanned {σ : Type} (store : Interface σ) (label success result : String)
    (plan : Except Failure Planned) (state : σ) : Run σ String :=
  match plan with
  | .error failure => ⟨.failed failure, [failureEntry label failure], state⟩
  | .ok planned =>
    let effect := store.write planned.call state
    match effect.answer with
    | .done =>
      let entry : Log.Entry := { level := .info, message := success, fields := [("user", planned.user)] }
      ⟨.ok result, effect.log ++ [entry], effect.state⟩
    | .refused message =>
      ⟨.failed (.store message), effect.log ++ [failureEntry label (.store message)], effect.state⟩
    | .broke => ⟨.broke, effect.log, effect.state⟩

/-- The write that links an account: the sanitized token becomes a field of the user's record. -/
def planLink (user : Option String) (token : String) : Except Failure Planned := do
  let token := Gate.sanitize token
  let user ← UserId.require user
  pure ⟨user, .update (userRecord user) [("github_token", .string token)]⟩

/-- Links an account to a user. -/
def link {σ : Type} (store : Interface σ) (user : Option String) (token : String) (state : σ) : Run σ String :=
  runPlanned store "GitHub link" "github account linked" accountLinked (planLink user token) state

/-- The write that saves progress: the value of the sanitized text replaces what was saved. -/
def planSave (user : Option String) (data : String) : Except Failure Planned := do
  let data := Gate.sanitize data
  let user ← UserId.require user
  match read data with
  | .error reason => throw (.malformedData reason)
  | .ok value => pure ⟨user, .set (progressRecord user) value⟩

/-- Saves a user's progress. -/
def save {σ : Type} (store : Interface σ) (user : Option String) (data : String) (state : σ) : Run σ String :=
  runPlanned store "Progress save" "progress saved" progressSaved (planSave user data) state

/-- An operation on a thread of its own: that it broke down is a failure there. The words for it are those of the
runtime, which names the thread in them; they may be left out where nobody is told them. -/
def contained {α : Type} (ending : Ending α) (words : String := "") : Except Failure α :=
  match ending with
  | .ok result => .ok result
  | .failed failure => .error failure
  | .broke => .error (.internal words)

end Operations

end CodeGate
