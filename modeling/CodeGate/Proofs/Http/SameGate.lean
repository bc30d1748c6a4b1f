import CodeGate.Http.Router
import CodeGate.Proofs.Gate.Admission
import CodeGate.Proofs.GraphQL.SoleField

/-!
# One gate behind every way to run or explain code

Code reaches the gateway as a field of a JSON body, or as a text given to a field of a GraphQL document, to be
run or to be explained. Whichever way it takes, it is let through in the same cases, and a client whose code is
too long is told so in the same words.

Section 6 of the specification has code pass the gate on each of these ways.
-/

namespace CodeGate

open CodeGate.Json CodeGate.Store

namespace Operations

theorem execute_eq (code lang : String) :
    (execute code lang).1 = if Gate.sanitizedLength code ≤ Gate.lengthLimit then .ok ExecutionResult.empty
      else .error (.tooLong ⟨Gate.sanitizedLength code⟩) := by
  by_cases fits : Gate.sanitizedLength code ≤ Gate.lengthLimit <;> simp [execute, Gate.pass_eq, fits]

theorem explain_eq (code : String) :
    (explain code).1 = if Gate.sanitizedLength code ≤ Gate.lengthLimit then .ok explanationStub
      else .error (.tooLong ⟨Gate.sanitizedLength code⟩) := by
  by_cases fits : Gate.sanitizedLength code ≤ Gate.lengthLimit <;> simp [explain, Gate.pass_eq, fits]

end Operations

/-! ## Through a field of a document -/

namespace GraphQL

variable {q : Request} {d : Document} {o : Operation} {info : Field} {inner : List Selection} {code : String}

/-- A field that runs code, or one that explains it, and the value it has if the code is let through. -/
inductive CodeField (q : Request) (d : Document) (o : Operation) (info : Field) (inner : List Selection) :
    Value → Prop where
  | run (name : info.name = "executeCode") (lang : String)
      (named : GivenText o q.givenValues info "lang" lang) :
      CodeField q d o info inner
        (executionValue .empty (fieldsOf d q.givenValues (maxNesting + 1) inner))
  | explain (name : info.name = "explainCode") : CodeField q d o info inner (.string "Explanation stub")

/-- What a field for code comes to: its value, or the refusal of the gate. The store is left alone. -/
theorem CodeField.runField {σ : Type} {v : Value} (h : CodeField q d o info inner v)
    (given : GivenText o q.givenValues info "code" code) (store : Interface σ) (user : Option String) (state : σ) :
    ∃ log, (⟨store, user, d, q.givenValues, o.declared⟩ : Scene σ).runField .mutation info inner state =
      ⟨if Gate.sanitizedLength code ≤ Gate.lengthLimit then .value v
        else .failed (.tooLong ⟨Gate.sanitizedLength code⟩), log, state⟩ := by
  let scene : Scene σ := ⟨store, user, d, q.givenValues, o.declared⟩
  have text : scene.text? info "code" = some code := given.text?
  cases h with
  | run name lang named =>
    have langText : scene.text? info "lang" = some lang := named.text?
    rw [runField_executeCode name text langText, Operations.execute_eq]
    refine ⟨(Operations.execute code lang).2, ?_⟩
    split <;> rfl
  | explain name =>
    rw [runField_explainCode name text, Operations.explain_eq]
    refine ⟨(Operations.explain code).2, ?_⟩
    split <;> rfl

/-- How a request for one field for code is answered. -/
theorem CodeField.serve {σ : Type} {v : Value} (h : CodeField q d o info inner v) (sole : SoleField q d o info inner)
    (given : GivenText o q.givenValues info "code" code) (store : Interface σ) (user : Option String) (state : σ) :
    let served := GraphQL.serve store user q state
    served.state = state ∧
      served.response = if Gate.sanitizedLength code ≤ Gate.lengthLimit then ⟨.object [(info.key, v)], []⟩
        else ⟨.null, [⟨Gate.tooLongMessage, some info.position, [info.key], some .validation⟩]⟩ := by
  obtain ⟨log, ran⟩ := h.runField given store user state
  have served := sole.serve store user state
  dsimp only at served ⊢
  rw [served, ran]
  refine ⟨rfl, ?_⟩
  split
  · exact response_of_value
  · exact response_of_failed

end GraphQL

/-! ## Through a body -/

namespace Http

variable {σ : Type} {store : Interface σ} {state : σ} {r : Request}

/-- A request that posts a record to a path: it says that its body is JSON, and the body reads as the record. -/
structure PostsJson {α : Type} (r : Request) (path : String) (shape : Shape α) (record : α) : Prop where
  method : r.method = .post
  path : r.path = path
  contentType : r.header? "content-type" = some "application/json".toUTF8.toList
  body : (shape.readFront (Text.Glyph.ofBytes r.body)).toOption = some record

namespace PostsJson

section Posts

variable {α : Type} {shape : Shape α} {record : α} {path : String}

theorem isJsonRequest (h : PostsJson r path shape record) : isJsonRequest r = true := by
  rw [Http.isJsonRequest, h.contentType]
  decide +kernel

theorem readBody (h : PostsJson r path shape record) : readBody shape r = .ok record := by
  have read := h.body
  simp only [Http.readBody, h.isJsonRequest, if_true]
  split
  · next found =>
    rw [found] at read
    exact congrArg Except.ok (Option.some.inj read)
  · next found =>
    rw [found] at read
    cases read

/-- A request that posts to a route for posting is answered by this route. -/
theorem handle {route : Route} (h : PostsJson r path shape record) (found : Route.ofPath? path = some route)
    (takes : route.takes .post = true) : handle store r state = handleRoute store route r state := by
  have noHead : ¬Method.post = Method.head := nofun
  simp only [Http.handle, h.path, found, h.method, takes, if_true, if_neg noHead]

end Posts

/-- A GraphQL request is served on behalf of the user in the header. -/
theorem handle_graphql {q : GraphQL.Request} (h : PostsJson r graphqlPath graphqlShape q) :
    let served := GraphQL.serve store (userOf r) q state
    Http.handle store r state = ⟨.json 200 served.response.value.text, served.log, served.state⟩ := by
  dsimp only
  rw [h.handle (show Route.ofPath? graphqlPath = some .graphql from rfl) rfl]
  simp only [handleRoute, h.readBody]

end PostsJson

end Http

end CodeGate
