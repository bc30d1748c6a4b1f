import CodeGate.Http.Router
import CodeGate.Proofs.GraphQL.Steps
import CodeGate.Proofs.Operations.History

/-!
# A request changes its own user's records

A request reaches the document only as a POST to the GraphQL endpoint, and there only on behalf of the user
in its header, if that user is accepted. Then only this user's record and progress can change, and of the
record only the linked token.

Section 11 of the specification has writes land in the records of the user in the header only.
-/

namespace CodeGate

open CodeGate.Json CodeGate.Store

namespace Operations

/-- From one document to another, only the records of a user changed: what is apart from both is found as
before, and a record that was an object kept its members, but for the token. -/
structure Within (id : String) (before after : Tree) : Prop where
  apart : ∀ keys, Tree.Apart ["users", id] keys → Tree.Apart ["progress", id] keys →
    Tree.get? keys after = Tree.get? keys before
  record : ∀ ms, Tree.get? ["users", id] before = some (.object ms) →
    ∃ ms', Tree.get? ["users", id] after = some (.object ms') ∧
      ∀ key, key ≠ "github_token" → Members.get? key ms' = Members.get? key ms

namespace Within

variable {id : String} {s t u : Tree}

theorem refl (id : String) (tree : Tree) : Within id tree tree :=
  ⟨fun _ _ _ => rfl, fun ms found => ⟨ms, found, fun _ _ => rfl⟩⟩

theorem trans (first : Within id s t) (later : Within id t u) : Within id s u where
  apart keys user progress := (later.apart keys user progress).trans (first.apart keys user progress)
  record ms found := by
    obtain ⟨between, found, same⟩ := first.record ms found
    obtain ⟨after, found, sameLater⟩ := later.record between found
    exact ⟨after, found, fun key other => (sameLater key other).trans (same key other)⟩

theorem link (id token : String) (tree : Tree) :
    Within id tree (Tree.update ["users", id] (tokenFields token) tree) where
  apart keys user _ := Tree.get?_update_of_apart user _ tree
  record ms found := by
    refine ⟨_, Tree.get?_update_self _ _ tree, fun key other => ?_⟩
    rw [found, mergeMembers_tokenFields, Members.get?_insert_of_ne other]
    rfl

theorem save (id : String) (v : Value) (tree : Tree) : Within id tree (Tree.set ["progress", id] v tree) where
  apart keys _ progress := Tree.get?_set_of_apart progress v tree
  record ms found := by
    have kinds : Tree.Apart ["progress", id] ["users", id] := apart_two (.inl (by decide))
    exact ⟨ms, (Tree.get?_set_of_apart kinds v tree).trans found, fun _ _ => rfl⟩

end Within

variable {user : Option String} {id : String}

/-- Links and saves of an accepted user stay within the user's records. -/
theorem kept_within (required : UserId.require user = .ok id) :
    GraphQL.Kept Memory.interface user (Within id) where
  refl := Within.refl id
  trans := Within.trans
  link token tree := by
    rw [(link_memory tree required token).2]
    exact Within.link id token tree
  save data tree := by
    cases hr : read (Gate.sanitize data) with
    | error reason =>
      rw [save_of_error (planSave_of_malformed required hr)]
      exact Within.refl id tree
    | ok v =>
      rw [(save_memory tree required hr).2]
      exact Within.save id v tree

/-- Links and saves without an accepted user leave every store as it is. -/
theorem kept_eq {σ : Type} {store : Interface σ} {f : Failure} (required : UserId.require user = .error f) :
    GraphQL.Kept store user Eq where
  refl _ := rfl
  trans first later := first.trans later
  link token state := by rw [link_of_error (planLink_of_error required)]
  save data state := by rw [save_of_error (planSave_of_error required)]

end Operations

namespace Http

open CodeGate.Operations

variable {r : Request} {id : String}

theorem path_of_graphql {path : String} (h : Route.ofPath? path = some .graphql) : path = graphqlPath := by
  by_contra other
  grind [Route.ofPath?]

/-- A request leaves the store alone, or it is a POST to the GraphQL endpoint and is served there. -/
theorem state_handle {σ : Type} (store : Interface σ) (r : Request) (state : σ) :
    (handle store r state).state = state ∨
      (r.method = .post ∧ r.path = graphqlPath ∧
        ∃ q, (handle store r state).state = (GraphQL.serve store (userOf r) q state).state) := by
  unfold handle
  split
  · exact .inl rfl
  · next route found =>
    split
    · next takes =>
      have inner : ∀ handled : Handled σ,
          (if r.method = .head then { handled with response := handled.response.withoutBody }
            else handled).state = handled.state := by
        intro handled
        split <;> rfl
      rw [inner]
      cases route with
      | graphql =>
        have method : r.method = .post := by simpa [Route.takes] using takes
        unfold handleRoute
        dsimp only
        split
        · exact .inl rfl
        · next q _ => exact .inr ⟨method, path_of_graphql found, q, rfl⟩
      | execute =>
        left
        unfold handleRoute
        dsimp only
        split <;> rfl
      | _ => exact .inl rfl
    · exact .inl rfl

/-- On whose behalf a request may write: it is a POST to the GraphQL endpoint, its first header for the user
is visible text, and the identifier in that text is accepted. -/
structure WritesFor (r : Request) (id : String) : Prop where
  method : r.method = .post
  path : r.path = "/graphql"
  named : ∃ bytes text, r.header? "x-user-id" = some bytes ∧ Request.visible? bytes = some text ∧
    UserId.check text = .ok id

theorem require_userOf_iff :
    UserId.require (userOf r) = .ok id ↔
      ∃ bytes text, r.header? "x-user-id" = some bytes ∧ Request.visible? bytes = some text ∧
        UserId.check text = .ok id := by
  rw [require_eq_ok_iff, userOf]
  simp only [Option.bind_eq_some_iff, userHeader]
  constructor
  · rintro ⟨text, ⟨bytes, header, visible⟩, accepted⟩
    exact ⟨bytes, text, header, visible, accepted⟩
  · rintro ⟨bytes, text, header, visible, accepted⟩
    exact ⟨text, ⟨bytes, header, visible⟩, accepted⟩

/-- **A request changes its own user's records.** Whatever the document and whatever the request: if it
writes for nobody, the document stays as it is. If it writes for a user, whatever is apart from the user's
record and progress is found as before, and a record that was an object keeps every member but the token. -/
theorem request_within_records (r : Request) (tree : Tree) :
    let after := (handle Memory.interface r tree).state
    ((∀ id, ¬WritesFor r id) → after = tree) ∧
      ∀ id, WritesFor r id →
        (∀ path, Tree.Apart (segments ("users/" ++ id)) (segments path) →
          Tree.Apart (segments ("progress/" ++ id)) (segments path) →
          Memory.get? path after = Memory.get? path tree) ∧
        ∀ ms, Memory.get? ("users/" ++ id) tree = some (.object ms) →
          ∃ ms', Memory.get? ("users/" ++ id) after = some (.object ms') ∧
            ∀ key, key ≠ "github_token" → Members.get? key ms' = Members.get? key ms := by
  intro after
  constructor
  · intro nobody
    rcases state_handle Memory.interface r tree with same | ⟨method, path, q, served⟩
    · exact same
    · cases required : UserId.require (userOf r) with
      | error f => exact served.trans ((kept_eq required).serve q tree).symm
      | ok id => exact absurd ⟨method, path, require_userOf_iff.1 required⟩ (nobody id)
  · intro id writes
    have required := require_userOf_iff.2 writes.named
    have key := key_of_require required
    have within : Within id tree after := by
      rcases state_handle Memory.interface r tree with same | ⟨-, -, q, served⟩
      · rw [show after = tree from same]
        exact Within.refl id tree
      · rw [show after = _ from served]
        exact (kept_within required).serve q tree
    have user := key.segments_userRecord
    have progress := key.segments_progressRecord
    rw [userRecord] at user
    rw [progressRecord] at progress
    simp only [Memory.get?, user, progress]
    exact ⟨fun path => within.apart (segments path), within.record⟩

/-- A document of two aliased mutations for one user. Both are made, and the record of another user stays, as
does the name in the own one. -/
theorem two_mutations :
    let query := "\x7b\"query\":\"mutation\x7ba:linkGithub(token:\\\"t\\\") b:saveProgress(data:\\\"1\\\")\x7d\"\x7d"
    let r : Request := {
      method := .post
      target := "/graphql?x"
      headers := [("content-type", "application/json".toUTF8.toList), ("X-User-Id", [0x20, 0x75, 0x31])]
      body := query.toUTF8.toList }
    let tree : Tree := .object [("users", .object [("u1", .object [("name", .string "ada")]), ("u2", .bool true)])]
    let after := (handle Memory.interface r tree).state
    WritesFor r "u1" ∧
      Memory.get? "users/u1/github_token" after = some (.string "t") ∧
      Memory.get? "progress/u1" after = some (.number (.integer 1)) ∧
      Memory.get? "users/u2" after = some (.bool true) ∧
      ∃ ms, Memory.get? "users/u1" after = some (.object ms) ∧ Members.get? "name" ms = some (.string "ada") := by
  intro query r tree after
  have writes : WritesFor r "u1" :=
    ⟨rfl, by decide, [0x20, 0x75, 0x31], " u1", by decide, by decide, UserId.check_eq_ok_iff.2 (by decide)⟩
  have made : Memory.get? "users/u1/github_token" after = some (.string "t") ∧
      Memory.get? "progress/u1" after = some (.number (.integer 1)) := by decide +kernel
  obtain ⟨elsewhere, record⟩ := (request_within_records r tree).2 "u1" writes
  refine ⟨writes, made.1, made.2, ?_, ?_⟩
  · exact elsewhere "users/u2" (by decide) (by decide)
  · obtain ⟨ms, found, kept⟩ := record [("name", .string "ada")] (by decide)
    exact ⟨ms, found, kept "name" (by decide)⟩

end Http

end CodeGate
