import CodeGate.GraphQL.Execution

/-!
# Requests that run one field

A mutation may come to a single field, however its document is written: with or without fragments,
directives and aliases. What such a request is answered with is what that one field comes to.
-/

namespace CodeGate.GraphQL

open CodeGate.Json CodeGate.Store

instance : DecidableEq Request := fun q q' =>
  decidable_of_iff (q.query = q'.query ∧ q.operationName = q'.operationName ∧ q.givenValues = q'.givenValues) <| by
    cases q
    cases q'
    simp

/-- A request that is not refused, and whose operation is a mutation that comes to one field. -/
structure SoleField (q : Request) (d : Document) (o : Operation) (info : Field)
    (inner : List Selection) : Prop where
  plan : q.plan = .ok (d, o)
  kind : o.kind = .mutation
  sole : fieldsOf d q.givenValues (maxNesting + 1) o.selections = [(info, inner)]

/-- The name of the variable that is given for an argument. -/
def Field.variableOf? (info : Field) (argument : String) : Option String :=
  match info.arguments.lookup argument with
  | some (.variable name) => some name
  | _ => none

theorem Field.lookup_of_variableOf? {info : Field} {argument name : String}
    (h : info.variableOf? argument = some name) : info.arguments.lookup argument = some (.variable name) := by
  unfold Field.variableOf? at h
  split at h
  · next found =>
    cases h
    exact found
  · cases h

/-- How a field of an operation is given a text for an argument: it is written there, or it is what a
variable of the operation stands for, which the request gives or the declaration has as its default. -/
inductive GivenText (o : Operation) (given : Given) (info : Field) (argument text : String) : Prop where
  | written (here : info.arguments.lookup argument = some (.string text))
  | fromRequest (name : String) (used : info.variableOf? argument = some name)
      (declared : name ∈ o.declared.map (·.name)) (value : Members.get? name given = some (.string text))
  | fromDefault (name : String) (v : VariableDef) (used : info.variableOf? argument = some name)
      (declared : o.declared.find? (·.name = name) = some v) (missing : Members.get? name given = none)
      (default : v.default = some (.string text))

variable {σ : Type} {store : Interface σ} {user : Option String} {state : σ}
  {q : Request} {d : Document} {o : Operation} {info : Field} {inner : List Selection}
  {argument text : String}

/-- A field gets the text that it is given. -/
theorem GivenText.text? {given : Given} (h : GivenText o given info argument text) :
    (⟨store, user, d, given, o.declared⟩ : Scene σ).text? info argument = some text := by
  cases h with
  | written here => simp only [Scene.text?, here, Option.bind_some, Literal.resolve?]
  | fromRequest name used declared value =>
    have used := Field.lookup_of_variableOf? used
    have found : (o.declared.find? (·.name = name)).isSome = true := by
      rw [List.find?_isSome]
      simpa using declared
    obtain ⟨v, found⟩ := Option.isSome_iff_exists.1 found
    simp only [Scene.text?, used, Option.bind_some, Literal.resolve?, Scene.variable?, found, Given.value?,
      value, Option.map_some, Literal.ofValue, Option.some_or]
  | fromDefault name v used declared missing default =>
    have used := Field.lookup_of_variableOf? used
    simp only [Scene.text?, used, Option.bind_some, Literal.resolve?, Scene.variable?, declared, Given.value?,
      missing, Option.map_none, Option.none_or, default]

/-! ## The fields for code -/

section CodeFields

variable {scene : Scene σ} {code lang : String}

theorem runField_executeCode (name : info.name = "executeCode") (hc : scene.text? info "code" = some code)
    (hl : scene.text? info "lang" = some lang) :
    scene.runField .mutation info inner state =
      ⟨.ofExcept (executionValue · (fieldsOf scene.document scene.given (maxNesting + 1) inner))
          (Operations.execute code lang).1, (Operations.execute code lang).2, state⟩ := by
  have other : info.name ≠ typeNameField := by rw [name]; decide
  rw [Scene.runField, if_neg other]
  simp only [Scene.mutate, name, hc, hl]

theorem runField_explainCode (name : info.name = "explainCode") (hc : scene.text? info "code" = some code) :
    scene.runField .mutation info inner state =
      ⟨.ofExcept .string (Operations.explain code).1, (Operations.explain code).2, state⟩ := by
  have other : info.name ≠ typeNameField := by rw [name]; decide
  rw [Scene.runField, if_neg other]
  simp only [Scene.mutate, name, hc]

end CodeFields

/-! ## Responses to one field -/

/-- A request that runs one field is answered with what the field comes to. -/
theorem SoleField.serve (h : SoleField q d o info inner) (store : Interface σ) (user : Option String)
    (state : σ) :
    let scene : Scene σ := ⟨store, user, d, q.givenValues, o.declared⟩
    let p := (⟨[], [], [], state⟩ : Progress σ).add info (scene.runField .mutation info inner state)
    GraphQL.serve store user q state = ⟨⟨objectOrNull p.data, p.errors⟩, p.log, p.state⟩ := by
  simp only [GraphQL.serve, h.plan, h.kind, ObjectType.ofKind?, h.sole, Scene.runFields]

/-- A field with a value makes a response of this value alone. -/
theorem response_of_value {v : Value} {log : List Log.Entry} :
    let p := (⟨[], [], [], state⟩ : Progress σ).add info ⟨.value v, log, state⟩
    (⟨objectOrNull p.data, p.errors⟩ : Response) = ⟨.object [(info.key, v)], []⟩ := rfl

/-- A field whose operation failed makes a response without data and with one error. -/
theorem response_of_failed {f : Failure} {log : List Log.Entry} :
    let p := (⟨[], [], [], state⟩ : Progress σ).add info ⟨.failed f, log, state⟩
    (⟨objectOrNull p.data, p.errors⟩ : Response) = ⟨.null, [Error.ofFailure info f]⟩ := rfl

end CodeGate.GraphQL
