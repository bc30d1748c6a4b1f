import CodeGate.GraphQL.Validation
import CodeGate.Http.Response

/-!
# Running a GraphQL request

The fields that an operation selects are run one after another in the order of the document. A field
that fails is left out of the data and adds an error; the fields behind it are run all the same. A
request that is refused runs nothing.

That a run goes on behind a failed field, and that the data of the other fields stay beside the errors, is how the
server was observed to answer. No field here may be null, so one could expect of `async-graphql` that a failed one
takes all data with it and stops the rest.

Follows `MutationRoot`, `QueryRoot`, `user_id` and `to_graphql_error`; sections 6, 7 and 11 of the
specification.
-/

namespace CodeGate.GraphQL

open CodeGate.Json CodeGate.Store

/-- A request. -/
structure Request where
  query : String := ""
  operationName : Option String := none
  givenValues : Given := []

/-- What kind of failure an operation had, as far as a client is told. -/
inductive ErrorCode where
  | validation
  | internal
  deriving DecidableEq, Repr

/-- How a code is written. -/
def ErrorCode.name : ErrorCode → String
  | validation => "VALIDATION"
  | internal => "INTERNAL"

/-- An error of a response: what is wrong, at which field of the document and of the data, and, if an
operation failed, the code of its failure. -/
structure Error where
  message : String
  position : Option Position := none
  path : List String := []
  code : Option ErrorCode := none
  deriving DecidableEq, Repr

/-- A response: the data, which is null if there is none, and what went wrong. -/
structure Response where
  data : Value
  errors : List Error

/-- Why a request is refused as a whole. -/
inductive Refusal where
  | unreadable
  | misfit
  | unknownOperation (name : String)
  | operationNotChosen
  deriving DecidableEq, Repr

/-- The refusal in words. -/
def Refusal.message : Refusal → String
  | unreadable => "the document cannot be read"
  | misfit => "the document does not fit the schema"
  | unknownOperation name => "there is no operation named " ++ Text.quoted name
  | operationNotChosen => "the document has several operations and none is chosen"

/-- The response to a request that is refused. -/
def Response.refused (refusal : Refusal) : Response := ⟨.null, [{ message := refusal.message }]⟩

/-- Whether a directive leaves out what it stands at. Without a condition it does not; a condition that
the request does not give does not hold, and defaults do not count here. -/
def Directive.leavesOut (given : Given) (d : Directive) : Bool :=
  match d.arguments.lookup "if" with
  | none => false
  | some condition =>
    let holds : Bool :=
      match condition.resolve? given.value? with
      | some (.boolean b) => b
      | _ => false
    if d.name = skipDirective then holds else d.name = includeDirective && !holds

/-- Whether directives leave out what they stand at. -/
def isLeftOut (given : Given) (ds : List Directive) : Bool :=
  ds.any (·.leavesOut given)

/-- The fields that selections come to, with the selections of each, in the order of the document. -/
def fieldsOf (d : Document) (given : Given) : (n : Nat) → List Selection → List (Field × List Selection)
  | 0, _ => []
  | n + 1, selections => selections.flatMap fun
    | .field info inner => if isLeftOut given info.directives then [] else [(info, inner)]
    | .inline _ ds inner => if isLeftOut given ds then [] else fieldsOf d given n inner
    | .spread name ds =>
      if isLeftOut given ds then []
      else
        match d.fragment? name with
        | none => []
        | some f => fieldsOf d given n f.selections

mutual

/-- An old value with the members of a new one put into it, if both are objects. -/
def mergeValue : (new : Value) → (old : Value) → Value
  | .object more, .object ms => .object (mergeMembers more ms)
  | _, old => old

/-- Members with new ones put into them; of two values with one key the old one stays, and the new one
is merged into it. -/
def mergeMembers : (new : List (String × Value)) → (old : Members) → Members
  | [], ms => ms
  | (k, w) :: more, ms =>
    let v := match Members.get? k ms with
      | none => w
      | some v => mergeValue w v
    mergeMembers more (Members.insert k v ms)

end

/-- What a field comes to: a value, the failure of its operation, or nothing because a value given to it
cannot be used. -/
inductive Outcome where
  | value (value : Value)
  | failed (failure : Failure)
  | unusable

/-- A field that has run: what it came to, what was logged, and the state of the store. -/
structure FieldRun (σ : Type) where
  outcome : Outcome
  log : List Log.Entry
  state : σ

/-- The outcome of an operation, its result turned into a value. -/
def Outcome.ofExcept {α : Type} (toValue : α → Value) : Except Failure α → Outcome
  | .ok result => .value (toValue result)
  | .error failure => .failed failure

/-- The members of an object; null if there are none. -/
def objectOrNull (ms : Members) : Value :=
  if ms = [] then .null else .object ms

/-- What selections take from the result of running code. -/
def executionValue (result : ExecutionResult) (fields : List (Field × List Selection)) : Value :=
  objectOrNull <| fields.foldl (fun ms (info, _) =>
    let v : Value :=
      if info.name = typeNameField then .string ObjectType.executionResult.name
      else if info.name = "trace" then Wire.texts result.trace
      else .string result.bindings
    mergeMembers [(info.key, v)] ms) []

/-- What a request brings to its fields: the store, the user, the document, the values it gives, and
the variables that its operation declares. -/
structure Scene (σ : Type) where
  store : Interface σ
  user : Option String
  document : Document
  given : Given
  declared : List VariableDef

/-- What a variable stands for when fields are run: the value given, or the default. -/
def Scene.variable? {σ : Type} (scene : Scene σ) (name : String) : Option Literal :=
  match scene.declared.find? (·.name = name) with
  | none => none
  | some v => (scene.given.value? name).or v.default

/-- The text given for an argument of a field, if it can be used. -/
def Scene.text? {σ : Type} (scene : Scene σ) (info : Field) (argument : String) : Option String :=
  match (info.arguments.lookup argument).bind (Literal.resolve? scene.variable?) with
  | some (.string s) => some s
  | _ => none

/-- A field whose operation ran on a thread of its own. -/
def FieldRun.ofRun {σ : Type} (run : Run σ String) : FieldRun σ :=
  ⟨.ofExcept .string (Operations.contained run.ending), run.log, run.state⟩

/-- Runs a field of a mutation. -/
def Scene.mutate {σ : Type} (scene : Scene σ) (info : Field) (inner : List Selection) (state : σ) : FieldRun σ :=
  let text := scene.text? info
  let unusable : FieldRun σ := ⟨.unusable, [], state⟩
  match info.name with
  | "executeCode" =>
    match text "code", text "lang" with
    | some code, some lang =>
      let (result, log) := Operations.execute code lang
      let fields := fieldsOf scene.document scene.given (maxNesting + 1) inner
      ⟨.ofExcept (executionValue · fields) result, log, state⟩
    | _, _ => unusable
  | "explainCode" =>
    match text "code" with
    | some code =>
      let (result, log) := Operations.explain code
      ⟨.ofExcept .string result, log, state⟩
    | none => unusable
  | "linkGithub" =>
    match text "token" with
    | some token => .ofRun (Operations.link scene.store scene.user token state)
    | none => unusable
  | "saveProgress" =>
    match text "data" with
    | some data => .ofRun (Operations.save scene.store scene.user data state)
    | none => unusable
  | _ => unusable

/-- Runs a field of the type that an operation selects from. -/
def Scene.runField {σ : Type} (scene : Scene σ) (type : ObjectType) (info : Field) (inner : List Selection)
    (state : σ) : FieldRun σ :=
  if info.name = typeNameField then ⟨.value (.string type.name), [], state⟩
  else
    match type with
    | .mutation => scene.mutate info inner state
    | _ => ⟨.value (.string Operations.userProgressStub), [], state⟩

/-- The error of a field whose operation failed: only the client's own mistakes are told. -/
def Error.ofFailure (info : Field) (failure : Failure) : Error where
  message := if failure.isClientError then failure.message else Http.internalMessage
  position := some info.position
  path := [info.key]
  code := some (if failure.isClientError then .validation else .internal)

/-- The error of a field that was given a value it cannot use. -/
def Error.unusable (info : Field) : Error where
  message := "a variable has no value that can be used here"
  position := some info.position
  path := [info.key]

/-- What the fields run so far have come to. -/
structure Progress (σ : Type) where
  data : Members
  errors : List Error
  log : List Log.Entry
  state : σ

/-- Takes up what one more field has come to. -/
def Progress.add {σ : Type} (p : Progress σ) (info : Field) (run : FieldRun σ) : Progress σ where
  data := match run.outcome with
    | .value v => mergeMembers [(info.key, v)] p.data
    | _ => p.data
  errors := match run.outcome with
    | .value _ => p.errors
    | .failed failure => p.errors ++ [Error.ofFailure info failure]
    | .unusable => p.errors ++ [Error.unusable info]
  log := p.log ++ run.log
  state := run.state

/-- Runs fields one after another. -/
def Scene.runFields {σ : Type} (scene : Scene σ) (type : ObjectType) :
    List (Field × List Selection) → Progress σ → Progress σ
  | [], p => p
  | (info, inner) :: fields, p => scene.runFields type fields (p.add info (scene.runField type info inner p.state))

/-- The operation of a document that a request asks for. -/
def Document.choose (d : Document) (name : Option String) : Except Refusal Operation :=
  match name, d.operations with
  | some name, operations =>
    match operations.find? (·.name = some name) with
    | some o => .ok o
    | none => .error (.unknownOperation name)
  | none, [o] => .ok o
  | none, _ => .error .operationNotChosen

/-- The document of a request and the operation that it asks for, if nothing speaks against running it. -/
def Request.plan (r : Request) : Except Refusal (Document × Operation) :=
  match Document.ofText? r.query with
  | none => .error .unreadable
  | some d =>
    if d.fits r.operationName r.givenValues then (d.choose r.operationName).map fun o => (d, o) else .error .misfit

/-- A request that was answered: the response, what was logged, and the state of the store. -/
structure Served (σ : Type) where
  response : Response
  log : List Log.Entry
  state : σ

/-- Answers a request of a user. -/
def serve {σ : Type} (store : Interface σ) (user : Option String) (r : Request) (state : σ) : Served σ :=
  match r.plan with
  | .error refusal => ⟨.refused refusal, [], state⟩
  | .ok (d, o) =>
    match ObjectType.ofKind? o.kind with
    | none => ⟨.refused .misfit, [], state⟩
    | some type =>
      let scene : Scene σ := ⟨store, user, d, r.givenValues, o.declared⟩
      let fields := fieldsOf d r.givenValues (maxNesting + 1) o.selections
      let p := scene.runFields type fields ⟨[], [], [], state⟩
      ⟨⟨objectOrNull p.data, p.errors⟩, p.log, p.state⟩

/-- An error as a value. -/
def Error.value (e : Error) : Value :=
  let place (p : Position) : Value :=
    .object [("column", .number (.integer p.column)), ("line", .number (.integer p.line))]
  .object (Members.ofList
    ([("message", .string e.message)] ++
      (match e.position with
        | some p => [("locations", .list [place p])]
        | none => []) ++
      (if e.path = [] then [] else [("path", Wire.texts e.path)]) ++
      (match e.code with
        | some code => [("extensions", .object [("code", .string code.name)])]
        | none => [])))

/-- A response as a value. -/
def Response.value (r : Response) : Value :=
  .object (("data", r.data) ::
    (if r.errors = [] then [] else [("errors", .list (r.errors.map Error.value))]))

end CodeGate.GraphQL
