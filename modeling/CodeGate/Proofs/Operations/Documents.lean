import CodeGate.Proofs.Operations.Checks
import CodeGate.Proofs.Store.Interleaving

/-!
# The documents of the in-memory store

The document after a history of calls is the document before it with the writes of the calls made one
after another. What is read is canonical, so every such write is, and the document stays a canonical
object, whoever calls and whatever they give.
-/

namespace CodeGate

open CodeGate.Json CodeGate.Store

/-- What is read is canonical. -/
theorem Json.canonical_of_read {data : String} {v : Value} (h : read data = .ok v) : v.Canonical := by
  obtain ⟨t, -, rfl⟩ := read_eq_ok_iff.1 h
  exact canonical_value _ t

namespace Operations

variable {user : Option String} {token data : String} {w : Write}

/-! ## The writes of a call -/

/-- A write that an operation can ask for: it is canonical, and its place is below the root. -/
structure Fit (w : Write) : Prop where
  below : w.place ≠ []
  canonical : w.Canonical

theorem LinkWrite.fit (h : LinkWrite user token w) : Fit w := by
  obtain ⟨text, rfl, accepted, rfl⟩ := h
  have place := (UserId.Key.of_check accepted).segments_userRecord
  constructor
  · exact fun root => List.cons_ne_nil _ _ (place.symm.trans root)
  · apply Value.canonical_object_iff.2
    exact ⟨List.pairwise_singleton _ _, List.forall_mem_singleton.2 trivial⟩

theorem SaveWrite.fit (h : SaveWrite user data w) : Fit w := by
  obtain ⟨text, v, rfl, accepted, value, rfl⟩ := h
  have place := (UserId.Key.of_check accepted).segments_progressRecord
  constructor
  · exact fun root => List.cons_ne_nil _ _ (place.symm.trans root)
  · exact canonical_of_read value

/-- The writes a call asks for: none, or one. -/
def Call.writes : Call → List Write
  | .execute _ _ | .explain _ => []
  | .link user token => plannedWrites (planLink user token)
  | .save user data => plannedWrites (planSave user data)

theorem fit_of_mem_planLink (h : w ∈ plannedWrites (planLink user token)) : Fit w :=
  ((checked_planLink user token).planned w h).fit

theorem fit_of_mem_planSave (h : w ∈ plannedWrites (planSave user data)) : Fit w :=
  ((checked_planSave user data).planned w h).fit

theorem fit_of_mem_writes {call : Call} (h : w ∈ call.writes) : Fit w := by
  cases call with
  | execute code lang => cases h
  | explain code => cases h
  | link user token => exact fit_of_mem_planLink h
  | save user data => exact fit_of_mem_planSave h

/-! ## Histories as rows of writes -/

theorem state_runPlanned_memory (label entry success : String) {plan : Except Failure Planned}
    (fit : ∀ w ∈ plannedWrites plan, Fit w) (tree : Tree) :
    (runPlanned Memory.interface label entry success plan tree).state =
      applyAll (plannedWrites plan) tree := by
  cases plan with
  | error f => rfl
  | ok planned =>
    have below : planned.call.place ≠ [] := (fit _ (List.mem_singleton_self _)).below
    simp [runPlanned, Memory.interface, Memory.perform_eq below, plannedWrites, applyAll]

theorem state_make (call : Call) (tree : Tree) :
    (call.make Memory.interface tree).2 = applyAll call.writes tree := by
  cases call with
  | execute code lang => rfl
  | explain code => rfl
  | link user token =>
    exact state_runPlanned_memory _ _ _ (fun _ => fit_of_mem_planLink) tree
  | save user data =>
    exact state_runPlanned_memory _ _ _ (fun _ => fit_of_mem_planSave) tree

/-- A history leaves the document that its writes leave, one after another. -/
theorem state_makeAll (calls : List Call) (tree : Tree) :
    (makeAll Memory.interface calls tree).2 = applyAll (calls.flatMap Call.writes) tree := by
  induction calls generalizing tree with
  | nil => rfl
  | cons call calls ih =>
    rw [makeAll_cons, ih, state_make, List.flatMap_cons, applyAll, applyAll, applyAll, List.foldl_append]

/-! ## Documents -/

/-- A document as the store keeps it: a canonical object. -/
structure Orderly (tree : Tree) : Prop where
  canonical : Value.Canonical tree
  isObject : tree.isObject = true

/-- The document a store begins with is in order. -/
theorem orderly_empty : Orderly .empty where
  canonical := Value.canonical_object_iff.2 ⟨List.Pairwise.nil, nofun⟩
  isObject := rfl

theorem Orderly.apply {tree : Tree} (orderly : Orderly tree) (fit : Fit w) : Orderly (w.apply tree) where
  canonical := fit.canonical.apply orderly.canonical
  isObject := by
    obtain ⟨key, keys, place⟩ := List.exists_cons_of_ne_nil fit.below
    rw [Write.apply, place, Tree.Edit.isObject_make, orderly.isObject, Bool.true_or]

theorem Orderly.applyAll {tree : Tree} (orderly : Orderly tree) {writes : List Write}
    (fit : ∀ w ∈ writes, Fit w) : Orderly (applyAll writes tree) := by
  induction writes generalizing tree with
  | nil => exact orderly
  | cons w writes ih =>
    obtain ⟨first, later⟩ := List.forall_mem_cons.1 fit
    exact ih (orderly.apply first) later

/-- Whatever calls are made, the document stays a canonical object. -/
theorem Orderly.makeAll {tree : Tree} (orderly : Orderly tree) (calls : List Call) :
    Orderly (makeAll Memory.interface calls tree).2 := by
  rw [state_makeAll]
  apply orderly.applyAll
  intro w hw
  obtain ⟨call, -, hw⟩ := List.mem_flatMap.1 hw
  exact fit_of_mem_writes hw

/-- **Every document is in order.** Whatever calls are made, one after another, the document that a store reaches from
the empty one is a canonical object. So what the laws of the store ask of a document holds of every one there is. -/
theorem orderly_reached (calls : List Call) : Orderly (makeAll Memory.interface calls .empty).2 :=
  orderly_empty.makeAll calls

end Operations

end CodeGate
