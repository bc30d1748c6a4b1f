import CodeGate.Http.Router
import CodeGate.Proofs.Gate.Admission

/-!
# What a client cannot see

A client learns of a failure that is not its own only that there was one. Two runs of one request, over stores
that fail every call for whatever reason, are followed step by step: each field comes to the same in both, or
fails in both with failures that look alike from outside.

Section 7 of the specification says what is told of each kind of failure.
-/

namespace CodeGate

open CodeGate.Json CodeGate.Store

namespace Store

/-- A store that fails every call: it refuses with some message, or it breaks down. -/
def Interface.Failing {σ : Type} (store : Interface σ) : Prop :=
  ∀ call state, (store.write call state).answer ≠ .done

end Store

/-- Two failures that a client cannot tell apart: they are the same, or neither is the client's. -/
inductive Failure.Lookalike : Failure → Failure → Prop where
  | same (f : Failure) : Lookalike f f
  | internal {f g : Failure} (hf : f.isClientError = false) (hg : g.isClientError = false) : Lookalike f g

variable {σ τ : Type} {A : Interface σ} {B : Interface τ}

/-! ## Operations -/

namespace Operations

/-- What a store does wrong is not the client's failure, whatever the words for a breakdown are. -/
theorem runPlanned_of_failing (fails : A.Failing) (label success result : String) (planned : Planned) (s : σ)
    (words : String) :
    ∃ f, f.isClientError = false ∧
      contained (runPlanned A label success result (.ok planned) s).ending words = .error f := by
  have notDone := fails planned.call s
  unfold runPlanned
  dsimp only
  split
  · next done => exact absurd done notDone
  · next message _ => exact ⟨.store message, rfl, rfl⟩
  · exact ⟨.internal words, rfl, rfl⟩

/-- An operation that makes one write fails alike over stores that fail every call: a check that fails does so
before the store is asked. The words for a breakdown may differ too. -/
theorem runPlanned_lookalike (hA : A.Failing) (hB : B.Failing) (label success result : String)
    (plan : Except Failure Planned) (s : σ) (t : τ) (words words' : String) :
    ∃ f g, f.Lookalike g ∧ contained (runPlanned A label success result plan s).ending words = .error f ∧
      contained (runPlanned B label success result plan t).ending words' = .error g := by
  cases plan with
  | error failure => exact ⟨failure, failure, .same failure, rfl, rfl⟩
  | ok planned =>
    obtain ⟨f, hf, failed⟩ := runPlanned_of_failing hA label success result planned s words
    obtain ⟨g, hg, failed'⟩ := runPlanned_of_failing hB label success result planned t words'
    exact ⟨f, g, .internal hf hg, failed, failed'⟩

end Operations

/-! ## Fields -/

namespace GraphQL

/-- Two outcomes of a field that a client cannot tell apart. -/
inductive Outcome.Lookalike : Outcome → Outcome → Prop where
  | same (x : Outcome) : Lookalike x x
  | failed {f g : Failure} (alike : f.Lookalike g) : Lookalike (.failed f) (.failed g)

/-- The error for a failure that is not the client's does not depend on the failure. -/
theorem Error.ofFailure_of_lookalike {f g : Failure} (h : f.Lookalike g) (info : Field) :
    Error.ofFailure info f = Error.ofFailure info g := by
  cases h with
  | same => rfl
  | internal hf hg => simp only [Error.ofFailure, hf, hg, Bool.false_eq_true, if_false]

theorem ofRun_lookalike (hA : A.Failing) (hB : B.Failing) (label success result : String)
    (plan : Except Failure Operations.Planned) (s : σ) (t : τ) :
    Outcome.Lookalike (FieldRun.ofRun (Operations.runPlanned A label success result plan s)).outcome
      (FieldRun.ofRun (Operations.runPlanned B label success result plan t)).outcome := by
  obtain ⟨f, g, alike, failed, failed'⟩ :=
    Operations.runPlanned_lookalike hA hB label success result plan s t "" ""
  simp only [FieldRun.ofRun, failed, failed', Outcome.ofExcept]
  exact .failed alike

section Fields

variable {user : Option String} {d : Document} {given : Given} {declared : List VariableDef}

/-- A field of a mutation looks alike over stores that fail every call: only links and saves reach the store. -/
theorem mutate_lookalike (hA : A.Failing) (hB : B.Failing) (info : Field) (inner : List Selection) (s : σ) (t : τ) :
    Outcome.Lookalike ((⟨A, user, d, given, declared⟩ : Scene σ).mutate info inner s).outcome
      ((⟨B, user, d, given, declared⟩ : Scene τ).mutate info inner t).outcome := by
  have texts : (⟨A, user, d, given, declared⟩ : Scene σ).text? = (⟨B, user, d, given, declared⟩ : Scene τ).text? :=
    rfl
  unfold Scene.mutate
  dsimp only
  rw [texts]
  split
  · -- running code
    split <;> exact .same _
  · -- explaining code
    split <;> exact .same _
  · -- linking
    split
    · exact ofRun_lookalike hA hB ..
    · exact .same _
  · -- saving
    split
    · exact ofRun_lookalike hA hB ..
    · exact .same _
  · exact .same _

theorem runField_lookalike (hA : A.Failing) (hB : B.Failing) (type : ObjectType) (info : Field)
    (inner : List Selection) (s : σ) (t : τ) :
    Outcome.Lookalike ((⟨A, user, d, given, declared⟩ : Scene σ).runField type info inner s).outcome
      ((⟨B, user, d, given, declared⟩ : Scene τ).runField type info inner t).outcome := by
  unfold Scene.runField
  split
  · exact .same _
  · cases type with
    | mutation => exact mutate_lookalike hA hB info inner s t
    | _ => exact .same _

/-- Two runs that a client cannot tell apart so far. -/
structure Progress.Lookalike (p : Progress σ) (p' : Progress τ) : Prop where
  data : p.data = p'.data
  errors : p.errors = p'.errors

/-- A field that looks alike in two runs leaves them alike. -/
theorem Progress.Lookalike.add {p : Progress σ} {p' : Progress τ} (h : p.Lookalike p') (info : Field)
    {run : FieldRun σ} {run' : FieldRun τ} (alike : run.outcome.Lookalike run'.outcome) :
    (p.add info run).Lookalike (p'.add info run') := by
  obtain ⟨outcome, log, after⟩ := run
  obtain ⟨outcome', log', after'⟩ := run'
  cases alike with
  | same =>
    cases outcome with
    | value v => exact ⟨congrArg (mergeMembers [(info.key, v)]) h.data, h.errors⟩
    | failed f => exact ⟨h.data, congrArg (· ++ [Error.ofFailure info f]) h.errors⟩
    | unusable => exact ⟨h.data, congrArg (· ++ [Error.unusable info]) h.errors⟩
  | @failed f g alike =>
    refine ⟨h.data, ?_⟩
    simp only [Progress.add, h.errors, Error.ofFailure_of_lookalike alike info]

/-- All fields, by induction on those that are still to run. -/
theorem runFields_lookalike (hA : A.Failing) (hB : B.Failing) (type : ObjectType)
    (fields : List (Field × List Selection)) {p : Progress σ} {p' : Progress τ} (h : p.Lookalike p') :
    ((⟨A, user, d, given, declared⟩ : Scene σ).runFields type fields p).Lookalike
      ((⟨B, user, d, given, declared⟩ : Scene τ).runFields type fields p') := by
  induction fields generalizing p p' with
  | nil => exact h
  | cons field fields ih =>
    obtain ⟨info, inner⟩ := field
    exact ih (h.add info (runField_lookalike hA hB type info inner p.state p'.state))

end Fields

/-- A whole request; one that is refused does not reach the store. -/
theorem serve_of_failing (hA : A.Failing) (hB : B.Failing) (user : Option String) (q : Request) (s : σ) (t : τ) :
    (serve A user q s).response = (serve B user q t).response := by
  unfold serve
  split
  · rfl
  · next d o _ =>
    split
    · rfl
    · next type _ =>
      let fields := fieldsOf d q.givenValues (maxNesting + 1) o.selections
      have same :
          ((⟨A, user, d, q.givenValues, o.declared⟩ : Scene σ).runFields type fields ⟨[], [], [], s⟩).Lookalike
            ((⟨B, user, d, q.givenValues, o.declared⟩ : Scene τ).runFields type fields ⟨[], [], [], t⟩) :=
        runFields_lookalike hA hB type fields ⟨rfl, rfl⟩
      simp only [fields, same.data, same.errors]

end GraphQL

/-! ## Responses -/

namespace Http

/-- Only the route of the GraphQL endpoint reaches the store. -/
theorem handleRoute_of_failing (hA : A.Failing) (hB : B.Failing) (route : Route) (r : Request) (s : σ) (t : τ) :
    (handleRoute A route r s).response = (handleRoute B route r t).response := by
  unfold handleRoute
  cases route with
  | graphql =>
    dsimp only
    split
    · rfl
    · next q _ => rw [GraphQL.serve_of_failing hA hB (userOf r) q s t]
  | execute =>
    dsimp only
    split <;> rfl
  | _ => rfl

theorem handle_of_failing (hA : A.Failing) (hB : B.Failing) (r : Request) (s : σ) (t : τ) :
    (handle A r s).response = (handle B r t).response := by
  unfold handle
  split
  · rfl
  · next route _ =>
    have same := handleRoute_of_failing hA hB route r s t
    split
    · dsimp only
      split
      · exact congrArg Response.withoutBody same
      · exact same
    · rfl

/-- The response to a failure that is not the client's. -/
theorem ofFailure_internal {f : Failure} (h : f.isClientError = false) :
    ofFailure f = .json 500 (Wire.ErrorBody.write ⟨errorCodeInternal, internalMessage⟩) := by
  simp only [ofFailure, failureStatus, h, Bool.false_eq_true, if_false]

/-- The response to a client's failure. -/
theorem ofFailure_tooLong (refusal : Gate.TooLong) :
    ofFailure (.tooLong refusal) =
      .json 400 (Wire.ErrorBody.write ⟨errorCodeValidation, Gate.tooLongMessage⟩) := rfl

end Http

namespace GraphQL.Error

variable {f : Failure} (info : Field)

/-- What the error for a failure tells that is not the client's. -/
theorem ofFailure_internal (h : f.isClientError = false) :
    (ofFailure info f).message = Http.internalMessage ∧ (ofFailure info f).code = some .internal := by
  simp only [ofFailure, h, Bool.false_eq_true, if_false, and_self]

/-- What the error for a client's failure tells. -/
theorem ofFailure_tooLong (refusal : Gate.TooLong) :
    (ofFailure info (.tooLong refusal)).message = Gate.tooLongMessage ∧
      (ofFailure info (.tooLong refusal)).code = some .validation := ⟨Gate.message_tooLong refusal, rfl⟩

end GraphQL.Error

namespace Http

/-- **Internal details never reach the client.** Any two stores that fail every call give the same responses to
every request, served or handled, from any states: whether a store refuses or breaks down, and with what message,
is not seen. Any two failures that are not the client's have one response and one error, whatever they carry, and
both tell them apart from every failure that is the client's. -/
theorem internal_details_hidden :
    (∀ (σ τ : Type) (A : Interface σ) (B : Interface τ), A.Failing → B.Failing → ∀ (s : σ) (t : τ),
      (∀ user q, (GraphQL.serve A user q s).response = (GraphQL.serve B user q t).response) ∧
        ∀ r, (handle A r s).response = (handle B r t).response) ∧
    (∀ f g : Failure, f.isClientError = false → g.isClientError = false →
      ofFailure f = ofFailure g ∧
        ∀ i j, (GraphQL.Error.ofFailure i f).message = (GraphQL.Error.ofFailure j g).message ∧
          (GraphQL.Error.ofFailure i f).code = (GraphQL.Error.ofFailure j g).code) ∧
    ∀ f c : Failure, f.isClientError = false → c.isClientError = true →
      (ofFailure f).status ≠ (ofFailure c).status ∧ (ofFailure f).body ≠ (ofFailure c).body ∧
        ∀ i j, (GraphQL.Error.ofFailure i f).message ≠ (GraphQL.Error.ofFailure j c).message ∧
          (GraphQL.Error.ofFailure i f).code ≠ (GraphQL.Error.ofFailure j c).code := by
  refine ⟨fun σ τ A B hA hB s t => ?_, fun f g hf hg => ?_, fun f c hf hc => ?_⟩
  · exact ⟨fun user q => GraphQL.serve_of_failing hA hB user q s t, fun r => handle_of_failing hA hB r s t⟩
  · refine ⟨(ofFailure_internal hf).trans (ofFailure_internal hg).symm, fun i j => ?_⟩
    obtain ⟨message, code⟩ := GraphQL.Error.ofFailure_internal i hf
    obtain ⟨message', code'⟩ := GraphQL.Error.ofFailure_internal j hg
    exact ⟨message.trans message'.symm, code.trans code'.symm⟩
  · cases c with
    | tooLong refusal =>
      rw [ofFailure_internal hf, ofFailure_tooLong]
      refine ⟨by decide, by decide +kernel, fun i j => ?_⟩
      obtain ⟨message, code⟩ := GraphQL.Error.ofFailure_internal i hf
      obtain ⟨message', code'⟩ := GraphQL.Error.ofFailure_tooLong j refusal
      rw [message, code, message', code']
      decide +kernel
    | _ => cases hc

/-- A link over a store that is down, and over one that breaks down: the store was asked, and no client sees what
went wrong, unlike code that is too long. -/
theorem outage_told_as_breakdown :
    let query := "\x7b\"query\":\"mutation\x7blinkGithub(token:\\\"t\\\")\x7d\"\x7d"
    let r : Request := {
      method := .post
      target := "/graphql"
      headers := [("content-type", "application/json".toUTF8.toList), ("X-User-Id", [0x75, 0x31])]
      body := query.toUTF8.toList }
    let refused := handle (recorder (.refused "database down")) r []
    let broke := handle (recorder .broke) r []
    refused.response = broke.response ∧ refused.response.status = 200 ∧ refused.state ≠ [] ∧
      ofFailure (.store "database down") = ofFailure (.invalidUser "u/1") ∧
      (ofFailure (.store "database down")).body ≠ (ofFailure (.tooLong ⟨10001⟩)).body := by
  intro query r refused broke
  have down : (recorder (.refused "database down")).Failing := fun _ _ => nofun
  have breaks : (recorder .broke).Failing := fun _ _ => nofun
  obtain ⟨stores, alike, apart⟩ := internal_details_hidden
  have told := (apart (.store "database down") (.tooLong ⟨10001⟩) rfl rfl).2.1
  exact ⟨(stores _ _ _ _ down breaks [] []).2 r, by decide +kernel, by decide +kernel, (alike _ _ rfl rfl).1, told⟩

end Http

end CodeGate
