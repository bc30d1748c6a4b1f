import CodeGate.Proofs.Store.Absorption
import CodeGate.Proofs.Store.Record

/-!
# Updates member by member

An update comes to as many writes of one value, behind its path, as it has fields: each of them is an update with
one field. Only a removal that finds no object at the path is less than that, since it makes none; it is
made good by the first value that is written.
-/

namespace CodeGate.Store

open CodeGate.Json CodeGate.Store.Tree

variable {path : String} {keys : List String} {fields : Members} {tree : Tree}

/-! ## Removals and alterations -/

namespace Tree

/-- Where an object is reached, a removal behind it is an update with a null. -/
theorem remove_eq_update (canonical : Value.Canonical tree) {ms : Members}
    (reached : follow keys tree = some (.object ms)) (key : String) :
    remove (keys ++ [key]) tree = update keys [(key, .null)] tree := by
  have replaced := replaced_remove (List.cons_ne_nil key []) canonical reached
  exact replaced.eq_alter rfl canonical

/-- An alteration that leaves the node it reaches leaves the tree. -/
theorem alter_of_still (canonical : Value.Canonical tree) {f : Value → Value} {node : Value}
    (reached : follow keys tree = some node) (still : f node = node) : alter f keys tree = tree := by
  have replaced := replaced_self reached
  exact (replaced.eq_alter still.symm canonical).symm

/-! ## Fields one by one -/

theorem update_cons (f : String × Value) (fields : Members) (keys : List String) (tree : Tree) :
    update keys (f :: fields) tree = update keys fields (update keys [f] tree) := by
  rw [update, update, update, alter_alter]
  rfl

/-- A null says nothing where no object is. -/
theorem update_cons_null (noObject : ∀ ms, follow keys tree ≠ some (.object ms)) (key : String)
    (fields : Members) : update keys ((key, .null) :: fields) tree = update keys fields tree := by
  apply alter_congr
  rw [members_getD_of_noObject noObject]
  rfl

/-- Fields with distinct keys can be merged in any order. -/
theorem update_perm {order : Members} (ascending : Members.Ascending fields) (perm : order.Perm fields)
    (canonical : Value.Canonical tree) : update keys order tree = update keys fields tree := by
  apply alter_congr
  have members := ascending_follow canonical keys
  apply congrArg Value.object
  apply (ascending_mergeMembers members order).ext (ascending_mergeMembers members fields)
  intro key
  rw [get?_mergeMembers, get?_mergeMembers, Members.last?_perm ascending.distinct perm]

end Tree

/-! ## One write a field -/

/-- The writes that set the members behind a path, one by one. -/
def Write.memberwise (path : String) (fields : Members) : List Write :=
  fields.map fun f => .set (path ++ "/" ++ f.1) f.2

/-- Setting one member is an update with one field. -/
theorem apply_member {f : String × Value} (plain : f.1 ≠ "" ∧ '/' ∉ f.1.toList)
    (canonical : Value.Canonical tree)
    (reaches : f.2 ≠ .null ∨ ∃ ms, follow (segments path) tree = some (.object ms)) :
    (Write.set (path ++ "/" ++ f.1) f.2).apply tree = tree.update (segments path) [f] := by
  obtain ⟨key, value⟩ := f
  rw [Write.apply, Write.place, Write.edit, segments_child path plain.2 plain.1]
  by_cases isNull : value = .null
  · subst isNull
    obtain ⟨ms, reached⟩ := reaches.resolve_left (absurd rfl)
    exact remove_eq_update canonical reached key
  · rw [if_neg isNull, Edit.make, alter_append, Tree.update]
    apply alter_congr
    simp [alter, mergeMembers, isNull]

/-- Setting a member to null does nothing where no object is. -/
theorem apply_member_of_noObject {key : String} (plain : key ≠ "" ∧ '/' ∉ key.toList)
    (canonical : Value.Canonical tree)
    (noObject : ∀ ms, follow (segments path) tree ≠ some (.object ms)) :
    (Write.set (path ++ "/" ++ key) .null).apply tree = tree := by
  rw [Write.apply, Write.place, Write.edit, segments_child path plain.2 plain.1, if_pos rfl]
  exact remove_of_noObject canonical noObject key

/-- All members set one after another come to one update, if one of them is a value or there is an object
already. By induction on the fields: behind a value, or at an object, there is an object for all later ones. -/
theorem applyAll_memberwise (plain : ∀ f ∈ fields, f.1 ≠ "" ∧ '/' ∉ f.1.toList)
    (sound : ∀ f ∈ fields, f.2.Canonical) (canonical : Value.Canonical tree)
    (reaches : (∃ f ∈ fields, f.2 ≠ .null) ∨ ∃ ms, follow (segments path) tree = some (.object ms)) :
    applyAll (Write.memberwise path fields) tree = tree.update (segments path) fields := by
  induction fields generalizing tree with
  | nil =>
    obtain ⟨ms, reached⟩ := reaches.resolve_left (by simp)
    exact (alter_of_still canonical reached rfl).symm
  | cons f fields ih =>
    obtain ⟨plainFirst, plainLater⟩ := List.forall_mem_cons.1 plain
    obtain ⟨soundFirst, soundLater⟩ := List.forall_mem_cons.1 sound
    by_cases first : f.2 ≠ .null ∨ ∃ ms, follow (segments path) tree = some (.object ms)
    · have step := apply_member plainFirst canonical first
      have canonicalToo : Value.Canonical (tree.update (segments path) [f]) := by
        rw [← step]
        exact Write.Canonical.apply (w := .set _ f.2) soundFirst canonical
      have object : ∃ ms, follow (segments path) (tree.update (segments path) [f]) = some (.object ms) :=
        ⟨_, follow_alter_self _ _ tree⟩
      calc applyAll (Write.memberwise path fields) ((Write.set (path ++ "/" ++ f.1) f.2).apply tree)
        _ = applyAll (Write.memberwise path fields) (tree.update (segments path) [f]) := by rw [step]
        _ = (tree.update (segments path) [f]).update (segments path) fields :=
          ih plainLater soundLater canonicalToo (.inr object)
        _ = tree.update (segments path) (f :: fields) := (update_cons f fields _ tree).symm
    · obtain ⟨key, value⟩ := f
      obtain ⟨isNull, noObject⟩ := not_or.1 first
      obtain rfl := not_not.1 isNull
      have noObject := not_exists.1 noObject
      have later : ∃ f ∈ fields, f.2 ≠ .null := by
        obtain ⟨g, hg, filled⟩ := reaches.resolve_right (not_exists.2 noObject)
        exact ⟨g, (List.mem_cons.1 hg).resolve_left fun e => filled (by rw [e]), filled⟩
      calc applyAll (Write.memberwise path fields) ((Write.set (path ++ "/" ++ key) .null).apply tree)
        _ = applyAll (Write.memberwise path fields) tree := by
          rw [apply_member_of_noObject plainFirst canonical noObject]
        _ = tree.update (segments path) fields := ih plainLater soundLater canonical (.inl later)
        _ = tree.update (segments path) ((key, .null) :: fields) := (update_cons_null noObject key fields).symm

namespace Memory

/-- **An update is its members set one by one.** Take any tree whose objects have one member a key, in ascending
order, a path with a segment, and fields of which one is not null and whose keys are not empty and hold no slash.
Updating there succeeds, and setting each field behind the path on its own succeeds as well and leaves the same
tree, in whatever order that is done. -/
theorem update_memberwise (rooted : segments path ≠ []) (canonical : Value.Canonical tree)
    (sound : (Value.object fields).Canonical) (filled : ∃ f ∈ fields, f.2 ≠ .null)
    (plain : ∀ f ∈ fields, f.1 ≠ "" ∧ '/' ∉ f.1.toList) :
    ∃ after, update path fields tree = .ok after ∧
      ∀ order : Members, order.Perm fields →
        performAll (order.map fun f => .set (path ++ "/" ++ f.1) f.2) tree = .ok after := by
  obtain ⟨ascending, each⟩ := Value.canonical_object_iff.1 sound
  refine ⟨tree.update (segments path) fields, if_neg rooted, ?_⟩
  intro order perm
  have plainToo : ∀ f ∈ order, f.1 ≠ "" ∧ '/' ∉ f.1.toList := fun f hf => plain f (perm.mem_iff.1 hf)
  have filledToo : ∃ f ∈ order, f.2 ≠ .null := by
    obtain ⟨f, hf, notNull⟩ := filled
    exact ⟨f, perm.mem_iff.2 hf, notNull⟩
  have rootedToo : ∀ w ∈ Write.memberwise path order, w.place ≠ [] := by
    intro w hw
    obtain ⟨f, hf, rfl⟩ := List.mem_map.1 hw
    have place := segments_child path (plainToo f hf).2 (plainToo f hf).1
    rw [Write.place, place]
    exact List.append_ne_nil_of_right_ne_nil _ (List.cons_ne_nil _ _)
  calc performAll (Write.memberwise path order) tree
    _ = .ok (applyAll (Write.memberwise path order) tree) := performAll_eq rootedToo tree
    _ = .ok (tree.update (segments path) order) := by
      rw [applyAll_memberwise plainToo (fun f hf => each f (perm.mem_iff.1 hf)) canonical (.inl filledToo)]
    _ = .ok (tree.update (segments path) fields) := by rw [update_perm ascending perm canonical]

/-- A removal that comes first finds no record yet, and one that comes last finds the record that a value made in
place of a scalar. -/
theorem members_in_two_orders :
    let path := "/users//u1"
    let tree : Tree := .object [("users", .object [("u1", .string "flat"), ("u2", .null)])]
    let fields : Members := [("email", .null), ("name", .string "ada"), ("tags", .list [.null])]
    segments path ≠ [] ∧ Value.Canonical tree ∧ (Value.object fields).Canonical ∧
      (∃ f ∈ fields, f.2 ≠ .null) ∧ (∀ f ∈ fields, f.1 ≠ "" ∧ '/' ∉ f.1.toList) ∧
      ∃ after, update path fields tree = .ok after ∧
        performAll [.set (path ++ "/" ++ "email") .null, .set (path ++ "/" ++ "name") (.string "ada"),
          .set (path ++ "/" ++ "tags") (.list [.null])] tree = .ok after ∧
        performAll [.set (path ++ "/" ++ "tags") (.list [.null]), .set (path ++ "/" ++ "name") (.string "ada"),
          .set (path ++ "/" ++ "email") .null] tree = .ok after := by
  intro path tree fields
  have rooted : segments path ≠ [] := by decide
  have canonical : Value.Canonical tree := by decide
  have sound : (Value.object fields).Canonical := by decide
  have filled : ∃ f ∈ fields, f.2 ≠ .null := by decide
  have plain : ∀ f ∈ fields, f.1 ≠ "" ∧ '/' ∉ f.1.toList := by decide
  obtain ⟨after, done, agree⟩ := update_memberwise rooted canonical sound filled plain
  refine ⟨rooted, canonical, sound, filled, plain, after, done, ?_, ?_⟩
  · exact agree fields (List.Perm.refl fields)
  · exact agree fields.reverse (List.reverse_perm fields)

end Memory

end CodeGate.Store
