import CodeGate.GraphQL.Execution

/-!
# The steps of a GraphQL request

Whatever document a request brings, its fields reach the store through links and saves of the request's
user only. So a relation between states that each of these keeps, and that can be chained, is kept from
the state before the request to the state after it.
-/

namespace CodeGate.GraphQL

open CodeGate.Store

variable {σ : Type} {store : Interface σ} {user : Option String}

/-- A relation between states that holds from before to after any row of links and saves of a user. -/
structure Kept (store : Interface σ) (user : Option String) (R : σ → σ → Prop) : Prop where
  refl : ∀ s, R s s
  trans : ∀ {s t u}, R s t → R t u → R s u
  link : ∀ token s, R s (Operations.link store user token s).state
  save : ∀ data s, R s (Operations.save store user data s).state

namespace Kept

variable {scene : Scene σ} {R : σ → σ → Prop}

/-- One field of a mutation is one operation, or nothing. -/
theorem mutate (kept : Kept scene.store scene.user R) (info : Field) (inner : List Selection) (state : σ) :
    R state (scene.mutate info inner state).state := by
  unfold Scene.mutate
  dsimp only
  split
  · -- running code
    split
    · exact kept.refl state
    · exact kept.refl state
  · -- explaining code
    split
    · exact kept.refl state
    · exact kept.refl state
  · -- linking
    split
    · exact kept.link _ state
    · exact kept.refl state
  · -- saving
    split
    · exact kept.save _ state
    · exact kept.refl state
  · exact kept.refl state

theorem runField (kept : Kept scene.store scene.user R) (type : ObjectType) (info : Field)
    (inner : List Selection) (state : σ) : R state (scene.runField type info inner state).state := by
  unfold Scene.runField
  split
  · exact kept.refl state
  · split
    · exact kept.mutate info inner state
    · exact kept.refl state

/-- All fields, by induction on those that are still to run. -/
theorem runFields (kept : Kept scene.store scene.user R) (type : ObjectType)
    (fields : List (Field × List Selection)) (p : Progress σ) :
    R p.state (scene.runFields type fields p).state := by
  induction fields generalizing p with
  | nil => exact kept.refl p.state
  | cons field fields ih =>
    obtain ⟨info, inner⟩ := field
    have first := kept.runField type info inner p.state
    have later := ih (p.add info (scene.runField type info inner p.state))
    exact kept.trans first later

/-- A whole request; one that is refused runs nothing. -/
theorem serve (kept : Kept store user R) (r : Request) (state : σ) :
    R state (GraphQL.serve store user r state).state := by
  unfold GraphQL.serve
  split
  · exact kept.refl state
  · next d o _ =>
    split
    · exact kept.refl state
    · next type _ =>
      let scene : Scene σ := ⟨store, user, d, r.givenValues, o.declared⟩
      have here : Kept scene.store scene.user R := kept
      exact here.runFields type _ ⟨[], [], [], state⟩

end Kept

end CodeGate.GraphQL
