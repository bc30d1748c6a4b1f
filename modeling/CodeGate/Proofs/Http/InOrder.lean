import CodeGate.Proofs.Http.SameGate
import CodeGate.Proofs.Operations.Checks

/-!
# The operations of a document, in their order

A mutation can hold any number of operations. They are made one after another in the order of the document, each
over what the ones before it left. One that fails adds an error to the response and changes nothing; it
neither stops those behind it nor takes back those before it.

Section 7 of the specification knows no partial success; that is not so for a document of several operations.
-/

namespace CodeGate

open CodeGate.Json CodeGate.Store CodeGate.Operations

/-! ## Calls and histories -/

namespace Operations

variable {σ : Type} {store : Interface σ}

/-- A call that succeeded and that can have changed the store. -/
def Made.Wrote (made : Made) : Prop :=
  made.succeeded = true ∧ ((∃ user token, made.call = .link user token) ∨ ∃ user data, made.call = .save user data)

/-- The calls of a history that succeeded. -/
def succeededOf (history : List Made) : List Call := (history.filter (·.succeeded)).map (·.call)

/-- Over the in-memory store a call that did not write left the document as it was. -/
theorem tree_of_not_wrote (call : Call) (tree : Tree)
    (idle : ¬(call.make Memory.interface tree).1.Wrote) : (call.make Memory.interface tree).2 = tree := by
  by_cases succeeded : (call.make Memory.interface tree).1.succeeded = true
  · cases call with
    | execute code lang => rfl
    | explain code => rfl
    | link user token => exact absurd ⟨succeeded, .inl ⟨user, token, rfl⟩⟩ idle
    | save user data => exact absurd ⟨succeeded, .inr ⟨user, data, rfl⟩⟩ idle
  · exact tree_of_failed call tree (Bool.eq_false_of_not_eq_true succeeded)

theorem tree_of_none_wrote (calls : List Call) (tree : Tree)
    (idle : ∀ made ∈ (makeAll Memory.interface calls tree).1, ¬made.Wrote) :
    (makeAll Memory.interface calls tree).2 = tree := by
  induction calls with
  | nil => rfl
  | cons call calls ih =>
    rw [makeAll_cons] at idle ⊢
    dsimp only at idle ⊢
    have first := tree_of_not_wrote call tree (idle _ List.mem_cons_self)
    rw [first] at idle ⊢
    exact ih fun made hm => idle made (List.mem_cons_of_mem _ hm)

/-- Making only the calls of a history that succeeded leaves the same document. -/
theorem makeAll_succeededOf (calls : List Call) (tree : Tree) :
    (makeAll Memory.interface (succeededOf (makeAll Memory.interface calls tree).1) tree).2 =
      (makeAll Memory.interface calls tree).2 := by
  induction calls generalizing tree with
  | nil => rfl
  | cons call calls ih =>
    rw [makeAll_cons]
    have later := ih (call.make Memory.interface tree).2
    dsimp only
    cases succeeded : (call.make Memory.interface tree).1.succeeded with
    | true =>
      rw [succeededOf, List.filter_cons_of_pos succeeded, List.map_cons, call_make, makeAll_cons]
      exact later
    | false =>
      rw [succeededOf, List.filter_cons_of_neg (by simp [succeeded])]
      rw [tree_of_failed call tree succeeded] at later ⊢
      exact later

end Operations

/-! ## Fields -/

namespace GraphQL

variable {σ : Type} {scene : Scene σ} {info : Field} {call : Call}

/-- The call that a field of a mutation makes. A field that asks for the name of the type makes none, and neither
does one that is given a value it cannot use. -/
def Scene.call? (scene : Scene σ) (info : Field) : Option Call :=
  let text := scene.text? info
  match info.name with
  | "executeCode" =>
    match text "code", text "lang" with
    | some code, some lang => some (.execute code lang)
    | _, _ => none
  | "explainCode" => (text "code").map .explain
  | "linkGithub" => (text "token").map (.link scene.user)
  | "saveProgress" => (text "data").map (.save scene.user)
  | _ => none

/-- A field that can be run: it makes a call, or asks for the name of the type. -/
def Scene.Runs (scene : Scene σ) (info : Field) : Prop :=
  (scene.call? info).isSome = true ∨ info.name = typeNameField

/-- The field has a value. -/
def Outcome.isValue : Outcome → Bool
  | .value _ => true
  | _ => false

theorem isValue_ofExcept {α : Type} (toValue : α → Value) (result : Except Failure α) :
    (Outcome.ofExcept toValue result).isValue = result.isOk := by
  cases result <;> rfl

theorem isValue_ofRun (run : Run σ String) : (FieldRun.ofRun run).outcome.isValue = run.ending.succeeded := by
  have ended : (contained run.ending).isOk = run.ending.succeeded := by cases run.ending <;> rfl
  exact (isValue_ofExcept _ _).trans ended

/-- A field that makes a call leaves the store as the call does, and has a value if the call succeeds. -/
theorem runField_of_call (inner : List Selection) (state : σ) (made : scene.call? info = some call) :
    (scene.runField .mutation info inner state).state = (call.make scene.store state).2 ∧
      (scene.runField .mutation info inner state).outcome.isValue = (call.make scene.store state).1.succeeded := by
  have named : info.name ≠ typeNameField := by
    intro name
    rw [Scene.call?, name] at made
    cases made
  rw [Scene.runField, if_neg named]
  unfold Scene.mutate
  dsimp only
  split
  · next name =>
    simp only [Scene.call?, name] at made
    cases code : scene.text? info "code" with
    | none => simp only [code, reduceCtorEq] at made
    | some text =>
      cases lang : scene.text? info "lang" with
      | none => simp only [code, lang, reduceCtorEq] at made
      | some language =>
        simp only [code, lang, Option.some.injEq] at made
        subst made
        simp only [Call.make, isValue_ofExcept, and_self]
  · next name =>
    simp only [Scene.call?, name] at made
    obtain ⟨code, found, rfl⟩ := Option.map_eq_some_iff.1 made
    simp only [found, Call.make, isValue_ofExcept, and_self]
  · next name =>
    simp only [Scene.call?, name] at made
    obtain ⟨token, found, rfl⟩ := Option.map_eq_some_iff.1 made
    simp only [found, Call.make, isValue_ofRun, and_true]
    rfl
  · next name =>
    simp only [Scene.call?, name] at made
    obtain ⟨data, found, rfl⟩ := Option.map_eq_some_iff.1 made
    simp only [found, Call.make, isValue_ofRun, and_true]
    rfl
  · unfold Scene.call? at made
    split at made
    all_goals contradiction

/-- A field that makes no call leaves the store alone, and has a value if it asks for the name of the type. -/
theorem runField_of_no_call (inner : List Selection) (state : σ) (idle : scene.call? info = none) :
    (scene.runField .mutation info inner state).state = state ∧
      ((scene.runField .mutation info inner state).outcome.isValue = true ↔ info.name = typeNameField) := by
  by_cases named : info.name = typeNameField
  · rw [Scene.runField, if_pos named]
    exact ⟨rfl, iff_of_true rfl named⟩
  · have unusable : scene.mutate info inner state = ⟨.unusable, [], state⟩ := by
      unfold Scene.mutate
      dsimp only
      split
      · next name =>
        split
        · next code lang =>
          simp only [Scene.call?, name, code, lang] at idle
          cases idle
        · rfl
      · next name =>
        simp only [Scene.call?, name] at idle
        simp only [Option.map_eq_none_iff.1 idle]
      · next name =>
        simp only [Scene.call?, name] at idle
        simp only [Option.map_eq_none_iff.1 idle]
      · next name =>
        simp only [Scene.call?, name] at idle
        simp only [Option.map_eq_none_iff.1 idle]
      · rfl
    rw [Scene.runField, if_neg named, unusable]
    exact ⟨rfl, iff_of_false Bool.false_ne_true named⟩

theorem errors_add_eq_nil {p : Progress σ} {run : FieldRun σ} :
    (p.add info run).errors = [] ↔ p.errors = [] ∧ run.outcome.isValue = true := by
  obtain ⟨outcome, log, after⟩ := run
  cases outcome <;> simp [Progress.add, Outcome.isValue]

/-- All fields of a mutation, by induction on those that are still to run: the store is left as their calls leave
it, and there is no error if every field can be run and every call succeeds. -/
theorem runFields_eq_makeAll (scene : Scene σ) (fields : List (Field × List Selection)) (p : Progress σ) :
    let after := scene.runFields .mutation fields p
    let made := makeAll scene.store (fields.filterMap fun field => scene.call? field.1) p.state
    after.state = made.2 ∧
      (after.errors = [] ↔ p.errors = [] ∧ (∀ field ∈ fields, scene.Runs field.1) ∧
        ∀ m ∈ made.1, m.succeeded = true) := by
  induction fields generalizing p with
  | nil => simp [Scene.runFields, makeAll]
  | cons field fields ih =>
    obtain ⟨info, inner⟩ := field
    obtain ⟨state, errors⟩ := ih (p.add info (scene.runField .mutation info inner p.state))
    rw [Scene.runFields]
    rw [errors_add_eq_nil] at errors
    cases found : scene.call? info with
    | some call =>
      obtain ⟨left, succeeds⟩ := runField_of_call inner p.state found
      have runs : scene.Runs info := .inl (by rw [found]; rfl)
      have first : (p.add info (scene.runField .mutation info inner p.state)).state =
          (call.make scene.store p.state).2 := left
      rw [first] at state errors
      rw [succeeds] at errors
      simp only [List.filterMap_cons, found, makeAll, List.forall_mem_cons, runs, true_and]
      refine ⟨state, errors.trans ?_⟩
      constructor
      · rintro ⟨⟨none, one⟩, all, later⟩
        exact ⟨none, all, one, later⟩
      · rintro ⟨none, all, one, later⟩
        exact ⟨⟨none, one⟩, all, later⟩
    | none =>
      obtain ⟨left, named⟩ := runField_of_no_call inner p.state found
      have runs : scene.Runs info ↔ info.name = typeNameField := by simp [Scene.Runs, found]
      have first : (p.add info (scene.runField .mutation info inner p.state)).state = p.state := left
      rw [first] at state errors
      rw [named] at errors
      simp only [List.filterMap_cons, found, List.forall_mem_cons, runs]
      refine ⟨state, errors.trans ?_⟩
      rw [and_assoc, and_assoc]

/-- What the fields of a request's mutation are run over, for a store and a user. -/
def Request.sceneOf (store : Interface σ) (user : Option String) (q : Request) (d : Document) (o : Operation) :
    Scene σ :=
  ⟨store, user, d, q.givenValues, o.declared⟩

/-- The fields that the operation of a request comes to. -/
def Request.fields (q : Request) (d : Document) (o : Operation) : List (Field × List Selection) :=
  fieldsOf d q.givenValues (maxNesting + 1) o.selections

/-- The calls that a request of a user asks for, in the order of its document. A request that is refused asks for
none, and neither does one that only reads. -/
def Request.calls (user : Option String) (q : Request) : List Call :=
  match q.plan with
  | .error _ => []
  | .ok (d, o) =>
    match o.kind with
    | .mutation => (q.fields d o).filterMap fun field => (q.sceneOf (recorder .done) user d o).call? field.1
    | _ => []

/-- A request that is not refused, all of whose fields can be run. -/
def Request.Runs (user : Option String) (q : Request) : Prop :=
  ∃ d o, q.plan = .ok (d, o) ∧ o.kind ≠ .subscription ∧
    (o.kind = .mutation → ∀ field ∈ q.fields d o, (q.sceneOf (recorder .done) user d o).Runs field.1)

/-- Fields that only read leave the store alone and add no error. -/
theorem runFields_query (scene : Scene σ) (fields : List (Field × List Selection)) (p : Progress σ) :
    (scene.runFields .query fields p).state = p.state ∧ (scene.runFields .query fields p).errors = p.errors := by
  induction fields generalizing p with
  | nil => exact ⟨rfl, rfl⟩
  | cons field fields ih =>
    obtain ⟨info, inner⟩ := field
    obtain ⟨state, errors⟩ := ih (p.add info (scene.runField .query info inner p.state))
    rw [Scene.runFields, state, errors]
    unfold Scene.runField
    split <;> exact ⟨rfl, rfl⟩

/-- Serving a request makes its calls. -/
theorem serve_eq_makeAll (store : Interface σ) (user : Option String) (q : Request) (state : σ) :
    let served := GraphQL.serve store user q state
    let made := makeAll store (q.calls user) state
    served.state = made.2 ∧
      (served.response.errors = [] ↔ q.Runs user ∧ ∀ m ∈ made.1, m.succeeded = true) := by
  dsimp only
  cases plan : q.plan with
  | error refusal =>
    have served : GraphQL.serve store user q state = ⟨.refused refusal, [], state⟩ := by
      simp only [GraphQL.serve, plan]
    have calls : q.calls user = [] := by simp only [Request.calls, plan]
    rw [served, calls]
    refine ⟨rfl, iff_of_false (List.cons_ne_nil _ _) ?_⟩
    rintro ⟨⟨d, o, accepted, -⟩, -⟩
    rw [plan] at accepted
    cases accepted
  | ok planned =>
    obtain ⟨d, o⟩ := planned
    have runs : q.Runs user ↔ o.kind ≠ .subscription ∧
        (o.kind = .mutation → ∀ field ∈ q.fields d o, (q.sceneOf (recorder .done) user d o).Runs field.1) := by
      constructor
      · rintro ⟨d', o', accepted, all⟩
        cases plan.symm.trans accepted
        exact all
      · exact fun all => ⟨d, o, plan, all⟩
    cases kind : o.kind with
    | query =>
      obtain ⟨same, none⟩ := runFields_query (q.sceneOf store user d o) (q.fields d o) ⟨[], [], [], state⟩
      have calls : q.calls user = [] := by simp only [Request.calls, plan, kind]
      simp only [GraphQL.serve, plan, kind, ObjectType.ofKind?, calls, runs]
      refine ⟨same, iff_of_true none ⟨⟨?_, ?_⟩, List.forall_mem_nil _⟩⟩
      · rintro ⟨⟩
      · rintro ⟨⟩
    | mutation =>
      obtain ⟨left, errors⟩ := runFields_eq_makeAll (q.sceneOf store user d o) (q.fields d o) ⟨[], [], [], state⟩
      have calls : q.calls user =
          (q.fields d o).filterMap fun field => (q.sceneOf store user d o).call? field.1 := by
        simp only [Request.calls, plan, kind]
        rfl
      simp only [GraphQL.serve, plan, kind, ObjectType.ofKind?, calls, runs]
      refine ⟨left, errors.trans ?_⟩
      constructor
      · rintro ⟨-, all, each⟩
        exact ⟨⟨by rintro ⟨⟩, fun _ => all⟩, each⟩
      · rintro ⟨⟨-, all⟩, each⟩
        exact ⟨rfl, all trivial, each⟩
    | subscription =>
      have calls : q.calls user = [] := by simp only [Request.calls, plan, kind]
      simp only [GraphQL.serve, plan, kind, ObjectType.ofKind?, calls, runs]
      exact ⟨rfl, iff_of_false (List.cons_ne_nil _ _) fun all => all.1.1 rfl⟩

end GraphQL

/-! ## Responses -/

namespace Http

open GraphQL

/-- **A document's operations are made in its order.** Whatever the document, the user and the tree: the tree is left
as the calls of the document leave it one after another, with those that fail left out. The response carries no
error exactly if the request is accepted, every field can be run and every call succeeds, and the tree stays
as it was if no link and no save of the document succeeds. Over HTTP this is what a posted request comes to. -/
theorem operations_in_order (user : Option String) (q : GraphQL.Request) (tree : Tree) :
    let served := GraphQL.serve Memory.interface user q tree
    let made := makeAll Memory.interface (q.calls user) tree
    served.state = made.2 ∧
      served.state = (makeAll Memory.interface (succeededOf made.1) tree).2 ∧
      (served.response.errors = [] ↔ q.Runs user ∧ ∀ m ∈ made.1, m.succeeded = true) ∧
      ((∀ m ∈ made.1, ¬m.Wrote) → served.state = tree) ∧
      ∀ r, PostsJson r graphqlPath graphqlShape q → userOf r = user →
        handle Memory.interface r tree = ⟨.json 200 served.response.value.text, served.log, served.state⟩ := by
  obtain ⟨left, errors⟩ := serve_eq_makeAll Memory.interface user q tree
  refine ⟨left, ?_, errors, ?_, ?_⟩
  · exact left.trans (makeAll_succeededOf (q.calls user) tree).symm
  · intro idle
    exact left.trans (tree_of_none_wrote (q.calls user) tree idle)
  · rintro r posted rfl
    exact posted.handle_graphql

/-- A document whose save is refused after its link was made, and whose last link is made after that. -/
def linkSaveLink : String :=
  "mutation\x7ba:linkGithub(token:\"t\") b:saveProgress(data:\"[\") c:linkGithub(token:\"u\")\x7d"

/-- A response with an error does not mean that nothing was done: the link in front of a refused save stays. -/
theorem link_stays_before_failed_save :
    let q : GraphQL.Request := {
      query := "mutation \x7b a: linkGithub(token: \"t\") b: saveProgress(data: \"[\") \x7d" }
    let served := GraphQL.serve Memory.interface (some "u1") q (.object [])
    served.response.errors ≠ [] ∧ served.response.data ≠ .null ∧ served.state ≠ .object [] := by
  decide +kernel

/-- The document over HTTP: there is an error, and both links are made around the refused save. -/
theorem links_made_around_failed_save :
    let q : GraphQL.Request := { query := linkSaveLink }
    let r : Request := {
      method := .post
      target := "/graphql"
      headers := [("content-type", "application/json".toUTF8.toList), ("x-user-id", [0x75, 0x31])]
      body := (Json.Value.object [("query", .string linkSaveLink)]).text.toUTF8.toList }
    let calls : List Call := [.link (some "u1") "t", .save (some "u1") "[", .link (some "u1") "u"]
    PostsJson r graphqlPath graphqlShape q ∧ userOf r = some "u1" ∧ q.calls (some "u1") = calls ∧
      (GraphQL.serve Memory.interface (some "u1") q (.object [])).response.errors ≠ [] ∧
      (handle Memory.interface r (.object [])).state =
        (makeAll Memory.interface [.link (some "u1") "t", .link (some "u1") "u"] (.object [])).2 := by
  intro q r calls
  have posts : PostsJson r graphqlPath graphqlShape q := ⟨rfl, by decide, by decide +kernel, by decide +kernel⟩
  have user : userOf r = some "u1" := by decide
  have asked : q.calls (some "u1") = calls := by decide +kernel
  have succeeded : succeededOf (makeAll Memory.interface calls (.object [])).1 =
      [.link (some "u1") "t", .link (some "u1") "u"] := by decide +kernel
  obtain ⟨-, kept, errors, -, overHttp⟩ := operations_in_order (some "u1") q (.object [])
  rw [asked, succeeded] at kept
  rw [asked] at errors
  refine ⟨posts, user, asked, ?_, ?_⟩
  · intro none
    have all := (errors.1 none).2
    have second := all ⟨.save (some "u1") "[", false⟩ (by decide +kernel)
    cases second
  · rw [overHttp r posts user]
    exact kept

end Http

end CodeGate
