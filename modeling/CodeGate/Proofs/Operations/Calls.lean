import CodeGate.Operations
import CodeGate.Proofs.Store.Record
import CodeGate.Store.Memory

/-!
# Calls of the operations

What a call of an operation comes to. Linking and saving plan one write; the plan fails with the checks
or names an accepted identifier. Over the in-memory store a planned write never fails, since the path of
a record leads through two keys.
-/

namespace CodeGate

open CodeGate.Json CodeGate.Store

/-- Whether an operation ended with a result. -/
def Ending.succeeded {α : Type} : Ending α → Bool
  | .ok _ => true
  | _ => false

namespace Operations

variable {user : Option String} {token data id : String}

/-! ## Plans -/

/-- The field that links an account. -/
def tokenFields (token : String) : Members := [("github_token", .string (Gate.sanitize token))]

theorem planLink_of_error {f : Failure} (h : UserId.require user = .error f) :
    planLink user token = .error f := by
  simp [planLink, h, bind, Except.bind]

theorem planLink_of_ok (h : UserId.require user = .ok id) :
    planLink user token = .ok ⟨id, .update (userRecord id) (tokenFields token)⟩ := by
  simp [planLink, h, bind, Except.bind, pure, Except.pure, tokenFields]

theorem planSave_of_error {f : Failure} (h : UserId.require user = .error f) :
    planSave user data = .error f := by
  simp [planSave, h, bind, Except.bind]

theorem planSave_of_malformed {reason : String} (h : UserId.require user = .ok id)
    (hr : read (Gate.sanitize data) = .error reason) :
    planSave user data = .error (.malformedData reason) := by
  simp [planSave, h, hr, bind, Except.bind, throw, throwThe, MonadExceptOf.throw]

theorem planSave_of_ok {v : Value} (h : UserId.require user = .ok id)
    (hr : read (Gate.sanitize data) = .ok v) :
    planSave user data = .ok ⟨id, .set (progressRecord id) v⟩ := by
  simp [planSave, h, hr, bind, Except.bind, pure, Except.pure]

/-- An accepted identifier is the trimmed text of the user. -/
theorem require_eq_ok_iff :
    UserId.require user = .ok id ↔ ∃ text, user = some text ∧ UserId.check text = .ok id := by
  cases user <;> simp [UserId.require]

theorem key_of_require (h : UserId.require user = .ok id) : UserId.Key id := by
  obtain ⟨text, -, accepted⟩ := require_eq_ok_iff.1 h
  exact UserId.Key.of_check accepted

/-! ## Runs -/

section Run

variable {σ : Type} {store : Interface σ} {state : σ} {f : Failure}

/-- A plan that fails makes no write. -/
theorem link_of_error (h : planLink user token = .error f) :
    link store user token state = ⟨.failed f, [failureEntry "GitHub link" f], state⟩ := by
  rw [link, h, runPlanned]

theorem save_of_error (h : planSave user data = .error f) :
    save store user data state = ⟨.failed f, [failureEntry "Progress save" f], state⟩ := by
  rw [save, h, runPlanned]

end Run

variable (tree : Tree)

theorem perform_update (h : UserId.Key id) (fields : Members) :
    Memory.perform (.update (userRecord id) fields) tree = .ok (Tree.update ["users", id] fields tree) := by
  simp [Memory.perform, Memory.update, h.segments_userRecord]

theorem perform_set (h : UserId.Key id) (v : Value) :
    Memory.perform (.set (progressRecord id) v) tree = .ok (Tree.set ["progress", id] v tree) := by
  simp [Memory.perform, Memory.set, h.segments_progressRecord]

/-- Linking over the in-memory store succeeds for an accepted identifier. -/
theorem link_memory (h : UserId.require user = .ok id) (token : String) :
    (link Memory.interface user token tree).ending = .ok accountLinked ∧
      (link Memory.interface user token tree).state = Tree.update ["users", id] (tokenFields token) tree := by
  have performed := perform_update tree (key_of_require h) (tokenFields token)
  simp [link, runPlanned, planLink_of_ok h, Memory.interface, performed]

/-- Saving over the in-memory store succeeds for an accepted identifier and data that can be read. -/
theorem save_memory {v : Value} (h : UserId.require user = .ok id) (hr : read (Gate.sanitize data) = .ok v) :
    (save Memory.interface user data tree).ending = .ok progressSaved ∧
      (save Memory.interface user data tree).state = Tree.set ["progress", id] v tree := by
  have performed := perform_set tree (key_of_require h) v
  simp [save, runPlanned, planSave_of_ok h hr, Memory.interface, performed]

/-! ## Calls as data -/

/-- A call of one of the operations, with its input. -/
inductive Call where
  | execute (code lang : String)
  | explain (code : String)
  | link (user : Option String) (token : String)
  | save (user : Option String) (data : String)
  deriving DecidableEq, Repr

/-- A call that was made, and whether it succeeded. -/
structure Made where
  call : Call
  succeeded : Bool
  deriving DecidableEq, Repr

/-- Makes a call: it goes down in the history, and the store is left in a state. -/
def Call.make {σ : Type} (store : Interface σ) (state : σ) (call : Call) : Made × σ :=
  match call with
  | .execute code lang => (⟨call, (Operations.execute code lang).1.isOk⟩, state)
  | .explain code => (⟨call, (Operations.explain code).1.isOk⟩, state)
  | .link user token =>
    let run := Operations.link store user token state
    (⟨call, run.ending.succeeded⟩, run.state)
  | .save user data =>
    let run := Operations.save store user data state
    (⟨call, run.ending.succeeded⟩, run.state)

/-- Makes calls one after another: their history, and the state they leave. -/
def makeAll {σ : Type} (store : Interface σ) : List Call → σ → List Made × σ
  | [], state => ([], state)
  | call :: calls, state =>
    let (made, state) := call.make store state
    let (history, state) := makeAll store calls state
    (made :: history, state)

end Operations

end CodeGate
