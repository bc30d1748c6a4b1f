import CodeGate.Proofs.Store.ReadBack

/-!
# Merging fields

An update puts its fields over the members of the node at its place: a null removes the member with its key,
any other value replaces it whole, and what is not named stays. The node is made an object first, and so are
the nodes on the way to it; nothing else is touched.
-/

namespace CodeGate.Store

open CodeGate.Json

namespace Tree

variable {fields ms : Members}

/-! ## Members after a merge -/

/-- One field is seen at its key only, where it leaves what its value reads as. -/
theorem get?_mergeMembers_singleton (f : String × Value) (ms : Members) (key : String) :
    Members.get? key (mergeMembers [f] ms) = if f.1 = key then reading f.2 else Members.get? key ms := by
  rw [mergeMembers_cons, mergeMembers, List.foldl_nil, reading]
  by_cases same : f.1 = key
  · subst same
    by_cases isNull : f.2 = .null <;> simp [isNull]
  · have differ : key ≠ f.1 := Ne.symm same
    by_cases isNull : f.2 = .null
    · simp [isNull, same, Members.get?_erase_of_ne differ]
    · simp [isNull, same, Members.get?_insert_of_ne differ]

/-- Of the fields with a key the last decides; without one the old member stays. -/
theorem get?_mergeMembers (fields ms : Members) (key : String) :
    Members.get? key (mergeMembers fields ms) =
      (Members.last? key fields).elim (Members.get? key ms) reading := by
  induction fields generalizing ms with
  | nil => rfl
  | cons f fields ih =>
    have first := get?_mergeMembers_singleton f ms key
    rw [mergeMembers_cons] at first ⊢
    rw [ih, Members.last?_cons]
    cases Members.last? key fields with
    | some v => rfl
    | none =>
      rw [Option.elim_none, Option.none_or]
      refine first.trans ?_
      split <;> rfl

theorem ascending_mergeMembers (ascending : Members.Ascending ms) (fields : Members) :
    Members.Ascending (mergeMembers fields ms) := by
  apply mergeMembers_keeps _ _ ascending
  · exact fun key ms ascending => ascending.erase key
  · exact fun f _ _ ms ascending => ascending.insert f.1 f.2

/-- What an update leaves of the node at its place: an object with these members. The node before may have been
missing. -/
structure Merged (fields : Members) (before : Option Value) (ms : Members) : Prop where
  given : ∀ key value, Members.get? key fields = some value → value ≠ .null → Members.get? key ms = some value
  removed : ∀ key, Members.get? key fields = some .null → Members.get? key ms = none
  kept : ∀ old, before = some (.object old) →
    ∀ key, Members.get? key fields = none → Members.get? key ms = Members.get? key old
  alone : (∀ old, before ≠ some (.object old)) →
    ∀ key, Members.get? key fields = none → Members.get? key ms = none

theorem merged_mergeMembers (ascending : Members.Ascending fields) (before : Option Value) :
    Merged fields before (mergeMembers fields (before.getD .null).members) where
  given := by
    intro key value given filled
    rw [get?_mergeMembers, ascending.last?_eq, given]
    exact if_neg filled
  removed := by
    intro key given
    rw [get?_mergeMembers, ascending.last?_eq, given]
    rfl
  kept := by
    rintro old rfl key unnamed
    rw [get?_mergeMembers, ascending.last?_eq, unnamed]
    rfl
  alone := by
    intro noObject key unnamed
    rw [get?_mergeMembers, ascending.last?_eq, unnamed, members_getD_of_noObject noObject]
    rfl

end Tree

namespace Memory

open CodeGate.Store.Tree

variable {path : String} {fields : Members}

/-- **An update merges and touches nothing else.** At every path with a segment it succeeds, whatever the
fields are. Afterwards the node at the path is an object: a named key holds the value given for it, or is gone
if that is null, and every other key is as it was in an object, and else is absent. What is apart from the path
is as before, also behind keys that no path can name. Each node on the way is an object that kept its
other members if it was one. -/
theorem update_merges (rooted : segments path ≠ []) (ascending : Members.Ascending fields) (tree : Tree) :
    ∃ after, update path fields tree = .ok after ∧
      (∃ ms, follow (segments path) after = some (.object ms) ∧
        Merged fields (follow (segments path) tree) ms) ∧
      (∀ keys, Apart (segments path) keys → follow keys after = follow keys tree) ∧
      (∀ other, Apart (segments path) (segments other) → get? other after = get? other tree) ∧
      ∀ front key keys, segments path = front ++ key :: keys →
        ∃ ms, follow front after = some (.object ms) ∧ OnTheWay key (follow front tree) ms := by
  refine ⟨tree.update (segments path) fields, if_neg rooted, ?_, ?_, ?_, ?_⟩
  · rw [Tree.update, follow_alter_self]
    exact ⟨_, rfl, merged_mergeMembers ascending _⟩
  · intro keys apart
    exact follow_alter_of_apart _ apart tree
  · intro other apart
    exact get?_update_of_apart apart fields tree
  · intro front key keys way
    rw [Tree.update, way]
    exact follow_alter_front _ front key keys tree

/-- Fields with keys that no path can name are merged into a record that stands beside a scalar. -/
theorem fields_beside_a_scalar :
    let tree : Tree := .object [("users", .object [("u1", .object [("a", .bool true), ("a/b", .null),
      ("old", .list [])]), ("u2", .string "flat")])]
    let fields : Members := [("", .list [.null]), ("a/b", .string "x"), ("old", .null)]
    segments "users//u1" ≠ [] ∧ Members.Ascending fields ∧
      ∃ after ms, update "users//u1" fields tree = .ok after ∧
        follow ["users", "u1"] after = some (.object ms) ∧
        Members.get? "" ms = some (.list [.null]) ∧ Members.get? "a/b" ms = some (.string "x") ∧
        Members.get? "old" ms = none ∧ Members.get? "a" ms = some (.bool true) ∧
        get? "users/u2" after = some (.string "flat") := by
  intro tree fields
  have rooted : segments "users//u1" ≠ [] := by decide
  have ascending : Members.Ascending fields := by decide
  obtain ⟨after, done, ⟨ms, found, merged⟩, -, apart, -⟩ := update_merges rooted ascending tree
  refine ⟨rooted, ascending, after, ms, done, found, ?_, ?_, ?_, ?_, ?_⟩
  · exact merged.given "" _ (by decide) (by decide)
  · exact merged.given "a/b" _ (by decide) (by decide)
  · exact merged.removed "old" (by decide)
  · have object : follow (segments "users//u1") tree = some (.object [("a", .bool true), ("a/b", .null),
        ("old", .list [])]) := by decide
    exact merged.kept _ object "a" (by decide)
  · exact apart "users/u2" (by decide)

end Memory

end CodeGate.Store
