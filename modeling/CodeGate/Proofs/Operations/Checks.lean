import CodeGate.Proofs.Operations.History
import CodeGate.Proofs.Operations.Watched

/-!
# One write, behind the checks

Linking and saving check first and write then. A failed check ends an operation before anything is asked
of the store; behind the checks there is one write, and its answer is the operation's ending. This holds
for every store, which is watched here so that the writes asked of it can be counted.

Sections 4.2 and 11 of the specification set the order of the checks.
-/

namespace CodeGate

open CodeGate.Json CodeGate.Store

/-- Whether a failure is that of an identifier: there is none, or it may not be used. -/
def Failure.isOfUser : Failure → Bool
  | missingContext _ | invalidUser _ => true
  | _ => false

/-- Whether a failure is that of a check in front of the write. -/
def Failure.isOfCheck : Failure → Bool
  | malformedData _ => true
  | failure => failure.isOfUser

/-- An operation was ended by a failed check. -/
def Ending.AtCheck {α : Type} (ending : Ending α) : Prop := ∃ f, ending = .failed f ∧ f.isOfCheck = true

namespace Operations

variable {σ : Type} {store : Interface σ} {state : σ} {user : Option String} {token data text : String}

/-- The ending of an operation whose write was answered. -/
def endingOf (success : String) : Answer → Ending String
  | .done => .ok success
  | .refused message => .failed (.store message)
  | .broke => .broke

/-- A run over a watched store that came to one write: it was asked for once, the store is as that write
left it, and the ending is the answer. -/
structure OneWrite (store : Interface σ) (state : σ) (success : String) (w : Write)
    (run : Run (σ × List Write) String) : Prop where
  asked : run.state.2 = [w]
  left : run.state.1 = (store.write w state).state
  ending : run.ending = endingOf success (store.write w state).answer

/-- A run over a watched store that makes a write behind its checks: a failed check leaves the store as it
was, with nothing asked of it, and every other ending is that of one write. -/
structure Guarded (store : Interface σ) (state : σ) (success : String) (writes : Write → Prop)
    (run : Run (σ × List Write) String) : Prop where
  stopped : run.ending.AtCheck → run.state = (state, [])
  wrote : ¬run.ending.AtCheck → ∃ w, writes w ∧ OneWrite store state success w run

variable {success : String} {writes : Write → Prop} {run : Run (σ × List Write) String}

theorem guarded_of_stopped (ending : run.ending.AtCheck) (unchanged : run.state = (state, [])) :
    Guarded store state success writes run :=
  ⟨fun _ => unchanged, fun other => absurd ending other⟩

/-- The answer to a write is no failure of a check. -/
theorem not_atCheck_endingOf (success : String) (answer : Answer) : ¬(endingOf success answer).AtCheck := by
  rintro ⟨f, same, ofCheck⟩
  cases answer with
  | refused message => cases same; cases ofCheck
  | _ => cases same

theorem guarded_of_oneWrite {w : Write} (allowed : writes w) (one : OneWrite store state success w run) :
    Guarded store state success writes run where
  stopped atCheck := absurd (one.ending ▸ atCheck) (not_atCheck_endingOf _ _)
  wrote _ := ⟨w, allowed, one⟩

/-! ## Plans -/

theorem isOfUser_of_require {f : Failure} (h : UserId.require user = .error f) : f.isOfUser = true := by
  cases user with
  | none => cases h; rfl
  | some text =>
    simp only [UserId.require, UserId.check] at h
    split at h
    · cases h; rfl
    · split at h
      · cases h
      · cases h; rfl

theorem isOfCheck_of_isOfUser {f : Failure} (h : f.isOfUser = true) : f.isOfCheck = true := by
  cases f with
  | missingContext what => rfl
  | invalidUser id => rfl
  | _ => cases h

/-- A plan behind its checks: it fails only with the failure of a check, and else holds a write of a kind. -/
structure Checked (plan : Except Failure Planned) (writes : Write → Prop) : Prop where
  stopped : ∀ f, plan = .error f → f.isOfCheck = true
  planned : ∀ w ∈ plannedWrites plan, writes w

theorem checked_error {f : Failure} (check : f.isOfCheck = true) : Checked (.error f) writes where
  stopped := by
    rintro _ ⟨⟩
    exact check
  planned := nofun

theorem checked_ok {planned : Planned} (allowed : writes planned.call) : Checked (.ok planned) writes where
  stopped := nofun
  planned := List.forall_mem_singleton.2 allowed

/-- A plan that holds a write makes it, once. -/
theorem oneWrite_runPlanned (store : Interface σ) (state : σ) (label entry success : String) (planned : Planned) :
    OneWrite store state success planned.call
      (runPlanned store.watched label entry success (.ok planned) (state, [])) := by
  rw [runPlanned_watched]
  constructor
  · rfl
  · simp only [withWrites, runPlanned]
    cases (store.write planned.call state).answer <;> rfl
  · simp only [withWrites, runPlanned]
    cases (store.write planned.call state).answer <;> rfl

theorem Checked.guarded {plan : Except Failure Planned} (checked : Checked plan writes)
    (label entry : String) :
    Guarded store state success writes (runPlanned store.watched label entry success plan (state, [])) := by
  cases plan with
  | error f => exact guarded_of_stopped ⟨f, rfl, checked.stopped f rfl⟩ rfl
  | ok planned =>
    exact guarded_of_oneWrite (checked.planned _ (List.mem_singleton_self _))
      (oneWrite_runPlanned store state label entry success planned)

/-! ## Links and saves -/

/-- The write of a link: the sanitized token at the record of the trimmed identifier. -/
def LinkWrite (user : Option String) (token : String) (w : Write) : Prop :=
  ∃ text, user = some text ∧ UserId.check text = .ok (Text.trim text) ∧
    w = .update ("users/" ++ Text.trim text) [("github_token", .string (Gate.sanitize token))]

/-- The write of a save: what the sanitized data are read as, at the progress of the trimmed identifier. -/
def SaveWrite (user : Option String) (data : String) (w : Write) : Prop :=
  ∃ text v, user = some text ∧ UserId.check text = .ok (Text.trim text) ∧
    read (Gate.sanitize data) = .ok v ∧ w = .set ("progress/" ++ Text.trim text) v

theorem checked_planLink (user : Option String) (token : String) :
    Checked (planLink user token) (LinkWrite user token) := by
  cases required : UserId.require user with
  | error f =>
    rw [planLink_of_error required]
    exact checked_error (isOfCheck_of_isOfUser (isOfUser_of_require required))
  | ok id =>
    obtain ⟨text, rfl, accepted⟩ := require_eq_ok_iff.1 required
    obtain rfl := trim_of_check accepted
    rw [planLink_of_ok required]
    exact checked_ok ⟨text, rfl, accepted, rfl⟩

theorem checked_planSave (user : Option String) (data : String) :
    Checked (planSave user data) (SaveWrite user data) := by
  cases required : UserId.require user with
  | error f =>
    rw [planSave_of_error required]
    exact checked_error (isOfCheck_of_isOfUser (isOfUser_of_require required))
  | ok id =>
    obtain ⟨text, rfl, accepted⟩ := require_eq_ok_iff.1 required
    obtain rfl := trim_of_check accepted
    cases hr : read (Gate.sanitize data) with
    | error reason =>
      rw [planSave_of_malformed required hr]
      exact checked_error rfl
    | ok v =>
      rw [planSave_of_ok required hr]
      exact checked_ok ⟨text, v, rfl, accepted, hr, rfl⟩

theorem guarded_link (store : Interface σ) (state : σ) (user : Option String) (token : String) :
    Guarded store state accountLinked (LinkWrite user token)
      (link store.watched user token (state, [])) :=
  (checked_planLink user token).guarded _ _

theorem guarded_save (store : Interface σ) (state : σ) (user : Option String) (data : String) :
    Guarded store state progressSaved (SaveWrite user data)
      (save store.watched user data (state, [])) :=
  (checked_planSave user data).guarded _ _

/-- A link of an accepted identifier makes its write. -/
theorem oneWrite_link (store : Interface σ) (state : σ) {id : String} (required : UserId.require user = .ok id)
    (token : String) :
    OneWrite store state accountLinked (.update ("users/" ++ id) [("github_token", .string (Gate.sanitize token))])
      (link store.watched user token (state, [])) := by
  rw [link, planLink_of_ok required]
  exact oneWrite_runPlanned store state _ _ _ ⟨id, .update (userRecord id) (tokenFields token)⟩

/-- A save of an accepted identifier makes its write, if its data can be read. -/
theorem oneWrite_save (store : Interface σ) (state : σ) {id : String} {v : Value}
    (required : UserId.require user = .ok id) (value : read (Gate.sanitize data) = .ok v) :
    OneWrite store state progressSaved (.set ("progress/" ++ id) v) (save store.watched user data (state, [])) := by
  rw [save, planSave_of_ok required value]
  exact oneWrite_runPlanned store state _ _ _ ⟨id, .set (progressRecord id) v⟩

/-- Over the in-memory store a call that does not succeed leaves the document as it was. -/
theorem tree_of_failed (call : Call) (tree : Tree)
    (failed : (call.make Memory.interface tree).1.succeeded = false) :
    (call.make Memory.interface tree).2 = tree := by
  have effect := effect_make call tree
  revert failed effect
  generalize call.make Memory.interface tree = made
  obtain ⟨made, after⟩ := made
  intro failed effect
  cases effect with
  | linked accepted => cases failed
  | saved accepted value => cases failed
  | failed | executed | explained => rfl

/-- **One write, behind the checks.** Whatever the store, running and explaining code ask nothing of it. A
link and a save run over a watched store as they would unwatched; each leaves the store alone if a check
ended it, and else comes to its one write. A failure of the identifier comes before malformed data, and with an
accepted identifier, and for a save data that can be read, the one write is made. Over the in-memory store every
failure leaves the document as it was. -/
theorem one_write_behind_checks (store : Interface σ) (state : σ) (user : Option String)
    (code lang token data : String) :
    let linked := link store.watched user token (state, [])
    let saved := save store.watched user data (state, [])
    ((Call.execute code lang).make store.watched (state, [])).2 = (state, []) ∧
      ((Call.explain code).make store.watched (state, [])).2 = (state, []) ∧
      linked = withWrites (link store user token state) linked.state.2 ∧
      saved = withWrites (save store user data state) saved.state.2 ∧
      Guarded store state accountLinked (LinkWrite user token) linked ∧
      Guarded store state progressSaved (SaveWrite user data) saved ∧
      (∀ f, UserId.require user = .error f →
        f.isOfUser = true ∧ linked.ending = .failed f ∧ saved.ending = .failed f) ∧
      (∀ id reason, UserId.require user = .ok id → read (Gate.sanitize data) = .error reason →
        saved.ending = .failed (.malformedData reason)) ∧
      (∀ id, UserId.require user = .ok id → OneWrite store state accountLinked
        (.update ("users/" ++ id) [("github_token", .string (Gate.sanitize token))]) linked) ∧
      (∀ id v, UserId.require user = .ok id → read (Gate.sanitize data) = .ok v →
        OneWrite store state progressSaved (.set ("progress/" ++ id) v) saved) ∧
      ∀ (call : Call) (tree : Tree), (call.make Memory.interface tree).1.succeeded = false →
        (call.make Memory.interface tree).2 = tree := by
  intro linked saved
  refine ⟨rfl, rfl, ?_, ?_, guarded_link store state user token, guarded_save store state user data, ?_, ?_,
    fun id required => oneWrite_link store state required token,
    fun id v required value => oneWrite_save store state required value, tree_of_failed⟩
  · simp only [linked, link_watched]
    rfl
  · simp only [saved, save_watched]
    rfl
  · intro f required
    refine ⟨isOfUser_of_require required, ?_, ?_⟩
    · simp only [linked, link_of_error (planLink_of_error required)]
    · simp only [saved, save_of_error (planSave_of_error required)]
  · intro id reason required malformed
    simp only [saved, save_of_error (planSave_of_malformed required malformed)]

/-- Over a store that refuses every write, a link of an accepted identifier fails with the store's message
after one write, and a save of a refused identifier fails before any, though its data are malformed too. Over one
that does every write, a save of an accepted identifier succeeds after one. -/
theorem refused_after_one_write :
    let store := recorder (.refused "connection reset")
    let linked := link store.watched (some " u1 ") "<t>" ([], [])
    let refused := save store.watched (some "u/1") "[" ([], [])
    let saved := save (recorder .done).watched (some " u1 ") "[\"<b>\",null]" ([], [])
    ¬linked.ending.AtCheck ∧ linked.ending = .failed (.store "connection reset") ∧
      linked.state.2 = [.update "users/u1" [("github_token", .string "&lt;t&gt;")]] ∧
      UserId.require (some "u/1") = .error (.invalidUser "u/1") ∧
      refused.ending = .failed (.invalidUser "u/1") ∧ refused.state = ([], []) ∧
      UserId.require (some " u1 ") = .ok "u1" ∧ saved.ending = .ok "Progress saved" ∧
      saved.state.2 = [.set "progress/u1" (.list [.string "&lt;b&gt;", .null])] := by
  -- the save that succeeds gets no name: unfolding the name would run it
  intro store linked refused
  dsimp only
  have unusable : UserId.require (some "u/1") = .error (.invalidUser "u/1") := by rfl
  have accepted : UserId.require (some " u1 ") = .ok "u1" :=
    require_eq_ok_iff.2 ⟨" u1 ", rfl, UserId.check_eq_ok_iff.2 (by decide)⟩
  have value : read (Gate.sanitize "[\"<b>\",null]") = .ok (.list [.string "&lt;b&gt;", .null]) := by
    decide +kernel
  have behind : ¬linked.ending.AtCheck := not_atCheck_endingOf accountLinked (.refused "connection reset")
  obtain ⟨-, -, -, -, -, -, -, -, written, -⟩ := one_write_behind_checks store [] (some " u1 ") "" "" "<t>" ""
  obtain ⟨-, -, -, -, -, guarded, early, -⟩ := one_write_behind_checks store [] (some "u/1") "" "" "" "["
  obtain ⟨-, -, -, -, -, -, -, -, -, set, -⟩ :=
    one_write_behind_checks (recorder .done) [] (some " u1 ") "" "" "" "[\"<b>\",null]"
  have one := written "u1" accepted
  have other := set "u1" _ accepted value
  obtain ⟨ofUser, -, ending⟩ := early _ unusable
  have stopped := guarded.stopped ⟨_, ending, isOfCheck_of_isOfUser ofUser⟩
  have write : Write.update ("users/" ++ "u1") [("github_token", .string (Gate.sanitize "<t>"))] =
      .update "users/u1" [("github_token", .string "&lt;t&gt;")] := by decide
  have place : "progress/" ++ "u1" = "progress/u1" := by decide
  rw [place] at other
  exact ⟨behind, one.ending, one.asked.trans (by rw [write]), unusable, ending, stopped, accepted, other.ending,
    other.asked⟩

end Operations

end CodeGate
