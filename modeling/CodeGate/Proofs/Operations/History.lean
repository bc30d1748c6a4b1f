import CodeGate.Proofs.Operations.Calls

/-!
# The history law of the records

Whatever calls are made over the in-memory store, by whichever users: a user's progress is what the last
successful save for that user left, and the user's record is what it was before with the token of the
last successful link. One call is looked at first, and a history is looked at call by call.

Section 4.2 of the specification says what each operation writes, and where.
-/

namespace CodeGate.Operations

open CodeGate.Json CodeGate.Store

/-! ## What a history says of a user -/

/-- The value that a call saved for a user. -/
def Made.saved (id : String) : Made → Option Value
  | ⟨.save (some user) data, true⟩ =>
    if Text.trim user = id then (read (Gate.sanitize data)).toOption else none
  | _ => none

/-- The token that a call linked for a user, as it was given. -/
def Made.linked (id : String) : Made → Option String
  | ⟨.link (some user) token, true⟩ => if Text.trim user = id then some token else none
  | _ => none

@[simp] theorem saved_failed (id : String) (call : Call) : Made.saved id ⟨call, false⟩ = none := by
  unfold Made.saved
  split
  · next h => cases h
  · rfl

@[simp] theorem linked_failed (id : String) (call : Call) : Made.linked id ⟨call, false⟩ = none := by
  unfold Made.linked
  split
  · next h => cases h
  · rfl

/-- The value that was saved last for a user. -/
def lastSaved (id : String) (history : List Made) : Option Value :=
  (history.filterMap (Made.saved id)).getLast?

/-- The token that was linked last for a user. -/
def lastLinked (id : String) (history : List Made) : Option String :=
  (history.filterMap (Made.linked id)).getLast?

/-- The progress after a history, from the progress before it. -/
def progressAfter (saved : Option Value) (before : Option Value) : Option Value :=
  match saved with
  | some v => Tree.reading v
  | none => before

/-- The record with a token; what was no object counts as empty. -/
def withToken (token : String) (record : Option Value) : Value :=
  .object (Members.insert "github_token" (.string (Gate.sanitize token)) (record.getD .empty).members)

/-- The record after a history, from the record before it. -/
def recordAfter (linked : Option String) (before : Option Value) : Option Value :=
  match linked with
  | some token => some (withToken token before)
  | none => before

/-! ## One call -/

/-- All that a call over the in-memory store can come to: a link, a save, or a call that leaves the
document alone, because it failed or because it is none of these. -/
inductive Effect (tree : Tree) : Made → Tree → Prop where
  | linked {text id token : String} (accepted : UserId.check text = .ok id) :
      Effect tree ⟨.link (some text) token, true⟩ (Tree.update ["users", id] (tokenFields token) tree)
  | saved {text id data : String} {v : Value} (accepted : UserId.check text = .ok id)
      (value : read (Gate.sanitize data) = .ok v) :
      Effect tree ⟨.save (some text) data, true⟩ (Tree.set ["progress", id] v tree)
  | failed (call : Call) : Effect tree ⟨call, false⟩ tree
  | executed (code lang : String) (succeeded : Bool) : Effect tree ⟨.execute code lang, succeeded⟩ tree
  | explained (code : String) (succeeded : Bool) : Effect tree ⟨.explain code, succeeded⟩ tree

theorem effect_make (call : Call) (tree : Tree) :
    Effect tree (call.make Memory.interface tree).1 (call.make Memory.interface tree).2 := by
  cases call with
  | execute code lang => exact .executed code lang _
  | explain code => exact .explained code _
  | link user token =>
    cases h : UserId.require user with
    | error f =>
      simp only [Call.make, link_of_error (planLink_of_error h), Ending.succeeded]
      exact .failed _
    | ok id =>
      obtain ⟨ending, state⟩ := link_memory tree h token
      obtain ⟨text, rfl, accepted⟩ := require_eq_ok_iff.1 h
      simp only [Call.make, ending, state, Ending.succeeded]
      exact .linked accepted
  | save user data =>
    cases h : UserId.require user with
    | error f =>
      simp only [Call.make, save_of_error (planSave_of_error h), Ending.succeeded]
      exact .failed _
    | ok id =>
      cases hr : read (Gate.sanitize data) with
      | error reason =>
        simp only [Call.make, save_of_error (planSave_of_malformed h hr), Ending.succeeded]
        exact .failed _
      | ok v =>
        obtain ⟨ending, state⟩ := save_memory tree h hr
        obtain ⟨text, rfl, accepted⟩ := require_eq_ok_iff.1 h
        simp only [Call.make, ending, state, Ending.succeeded]
        exact .saved accepted hr

variable {id : String} {tree after : Tree} {made : Made}

/-- The identifier of an accepted text is the trimmed text. -/
theorem trim_of_check {text named : String} (h : UserId.check text = .ok named) : Text.trim text = named :=
  (UserId.check_eq_ok_iff.1 h).1.symm

/-- Only a save for the user changes the user's progress. -/
theorem Effect.progress (effect : Effect tree made after) (key : UserId.Key id) :
    Memory.get? (progressRecord id) after =
      progressAfter (made.saved id) (Memory.get? (progressRecord id) tree) := by
  simp only [Memory.get?, key.segments_progressRecord]
  cases effect with
  | linked accepted => exact Tree.get?_update_of_apart (apart_two (.inl (by decide))) _ _
  | @saved text named data v accepted value =>
    by_cases same : named = id
    · simp [Made.saved, trim_of_check accepted, value, same, Except.toOption, progressAfter, Tree.get?_set_self]
    · simp only [Made.saved, trim_of_check accepted, same, if_false, progressAfter]
      exact Tree.get?_set_of_apart (apart_two (.inr same)) _ _
  | failed call => simp [progressAfter]
  | executed | explained => rfl

theorem mergeMembers_tokenFields (token : String) (ms : Members) :
    Tree.mergeMembers (tokenFields token) ms =
      Members.insert "github_token" (.string (Gate.sanitize token)) ms := by
  simp [Tree.mergeMembers, tokenFields]

/-- Only a link for the user changes the user's record. -/
theorem Effect.record (effect : Effect tree made after) (key : UserId.Key id) :
    Memory.get? (userRecord id) after =
      recordAfter (made.linked id) (Memory.get? (userRecord id) tree) := by
  simp only [Memory.get?, key.segments_userRecord]
  cases effect with
  | @linked text named token accepted =>
    by_cases same : named = id
    · simp [Made.linked, trim_of_check accepted, same, recordAfter, withToken, Tree.get?_update_self,
        mergeMembers_tokenFields]
    · simp only [Made.linked, trim_of_check accepted, same, if_false, recordAfter]
      exact Tree.get?_update_of_apart (apart_two (.inr same)) _ _
  | saved accepted value => exact Tree.get?_set_of_apart (apart_two (.inl (by decide))) _ _
  | failed call => simp [recordAfter]
  | executed | explained => rfl

/-- A save that succeeded has a value. -/
theorem Effect.value (effect : Effect tree made after) {user : Option String} {data : String}
    (h : made = ⟨.save user data, true⟩) : ∃ v, read (Gate.sanitize data) = .ok v := by
  cases effect with
  | @saved text named data v accepted value => cases h; exact ⟨v, value⟩
  | _ => cases h

/-! ## A history -/

theorem getLast?_filterMap_cons {α β : Type} (f : α → Option β) (a : α) (as : List α) :
    ((a :: as).filterMap f).getLast? = (as.filterMap f).getLast?.or (f a) := by
  cases h : f a with
  | none => simp [h]
  | some b => cases hl : (as.filterMap f).getLast? <;> simp [h, List.getLast?_cons, hl]

theorem progressAfter_or (later earlier : Option Value) (before : Option Value) :
    progressAfter (later.or earlier) before = progressAfter later (progressAfter earlier before) := by
  cases later <;> rfl

/-- A later token replaces an earlier one and leaves the rest of the record as it was. -/
theorem recordAfter_or (later earlier : Option String) (before : Option Value) :
    recordAfter (later.or earlier) before = recordAfter later (recordAfter earlier before) := by
  cases later with
  | none => rfl
  | some token => cases earlier <;> simp [recordAfter, withToken, Value.members]

theorem makeAll_cons (call : Call) (calls : List Call) (tree : Tree) :
    makeAll Memory.interface (call :: calls) tree =
      let (made, tree) := call.make Memory.interface tree
      (made :: (makeAll Memory.interface calls tree).1, (makeAll Memory.interface calls tree).2) := rfl

theorem progress_makeAll (key : UserId.Key id) (calls : List Call) (tree : Tree) :
    Memory.get? (progressRecord id) (makeAll Memory.interface calls tree).2 =
      progressAfter (lastSaved id (makeAll Memory.interface calls tree).1)
        (Memory.get? (progressRecord id) tree) := by
  induction calls generalizing tree with
  | nil => rfl
  | cons call calls ih =>
    rw [makeAll_cons, ih, (effect_make call tree).progress key, lastSaved, lastSaved,
      getLast?_filterMap_cons, progressAfter_or]

theorem record_makeAll (key : UserId.Key id) (calls : List Call) (tree : Tree) :
    Memory.get? (userRecord id) (makeAll Memory.interface calls tree).2 =
      recordAfter (lastLinked id (makeAll Memory.interface calls tree).1)
        (Memory.get? (userRecord id) tree) := by
  induction calls generalizing tree with
  | nil => rfl
  | cons call calls ih =>
    rw [makeAll_cons, ih, (effect_make call tree).record key, lastLinked, lastLinked,
      getLast?_filterMap_cons, recordAfter_or]

theorem value_of_mem_makeAll (calls : List Call) (tree : Tree) {user : Option String} {data : String}
    (h : ⟨.save user data, true⟩ ∈ (makeAll Memory.interface calls tree).1) :
    ∃ v, read (Gate.sanitize data) = .ok v := by
  induction calls generalizing tree with
  | nil => cases h
  | cons call calls ih =>
    rw [makeAll_cons] at h
    rcases List.mem_cons.1 h with first | later
    · exact (effect_make call tree).value first.symm
    · exact ih _ later

theorem call_make (call : Call) (tree : Tree) : (call.make Memory.interface tree).1.call = call := by
  cases call <;> rfl

theorem calls_makeAll (calls : List Call) (tree : Tree) :
    (makeAll Memory.interface calls tree).1.map Made.call = calls := by
  induction calls generalizing tree with
  | nil => rfl
  | cons call calls ih => rw [makeAll_cons, List.map_cons, ih, call_make]

/-- **The history law.** After any calls by any users, the progress of an accepted identifier is the value
of its last successful save, and its record is the one it had with the token of its last successful
link. Nothing else in the history has a say in either. -/
theorem records_after_history {id named : String} (accepted : UserId.check id = .ok named)
    (calls : List Call) (tree : Tree) :
    let history := (makeAll Memory.interface calls tree).1
    let after := (makeAll Memory.interface calls tree).2
    history.map Made.call = calls ∧
      (∀ user data, ⟨.save user data, true⟩ ∈ history → ∃ v, read (Gate.sanitize data) = .ok v) ∧
      Memory.get? (progressRecord id) after =
        progressAfter (lastSaved id history) (Memory.get? (progressRecord id) tree) ∧
      Memory.get? (userRecord id) after =
        recordAfter (lastLinked id history) (Memory.get? (userRecord id) tree) := by
  have key := UserId.Key.of_accepted accepted
  exact ⟨calls_makeAll calls tree, fun _ _ => value_of_mem_makeAll calls tree,
    progress_makeAll key calls tree, record_makeAll key calls tree⟩

/-- The records of a user who links twice and saves twice, while other users link and save and some calls are
refused. -/
theorem record_after_links :
    let calls : List Call := [.link (some "u1") "old", .save (some "u1") "[1]", .save (some "u/1") "1",
      .link (some " u1 ") "<t>", .save (some " u1 ") "\"<b>\"", .save (some "u2") "2", .save (some "u1") "[",
      .link (some "u2") "x", .link none "y"]
    let tree : Tree := .object [("users", .object [("u1", .object [("name", .string "ada")])])]
    let after := (makeAll Memory.interface calls tree).2
    UserId.check "u1" = .ok "u1" ∧
      Memory.get? (progressRecord "u1") after = some (.string "&lt;b&gt;") ∧
      Memory.get? (userRecord "u1") after =
        some (.object [("github_token", .string "&lt;t&gt;"), ("name", .string "ada")]) := by
  intro calls tree
  dsimp only
  have accepted : UserId.check "u1" = .ok "u1" := UserId.check_eq_ok_iff.2 (by decide)
  obtain ⟨-, -, progress, record⟩ := records_after_history accepted calls tree
  exact ⟨accepted, progress.trans (by decide +kernel), record.trans (by decide +kernel)⟩

end CodeGate.Operations
