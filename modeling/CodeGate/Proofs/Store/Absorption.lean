import CodeGate.Proofs.Store.Interleaving
import CodeGate.Proofs.Store.Merge
import CodeGate.Proofs.Store.Removal

/-!
# Later writes absorb earlier ones

What a write left at a place or behind it is gone once a value is put there, and so is what it did on the way:
the nodes it made or turned into objects are made by the later write as well. Two updates at one place come to
one, and a write made twice comes to one write.
-/

namespace CodeGate.Store

open CodeGate.Json

namespace Tree

variable {keys more : List String} {tree : Tree}

/-! ## Altering a node twice -/

theorem alter_alter (f g : Value → Value) (keys : List String) (tree : Tree) :
    alter g keys (alter f keys tree) = alter (fun node => g (f node)) keys tree := by
  induction keys generalizing tree with
  | nil => rfl
  | cons key keys ih =>
    rw [alter_cons g, members_alter_cons, Members.get?_insert_self, Option.getD_some, ih, Members.insert_insert,
      alter_cons]

/-- An alteration depends on what it makes of the node at its place only. -/
theorem alter_congr {f g : Value → Value}
    (same : f ((follow keys tree).getD .null) = g ((follow keys tree).getD .null)) :
    alter f keys tree = alter g keys tree := by
  induction keys generalizing tree with
  | nil => exact same
  | cons key keys ih =>
    rw [follow_getD_cons] at same
    rw [alter_cons, alter_cons, ih same]

/-! ## One value over an edit -/

/-- Behind a key, a value put at a place does not show what an edit did there or behind it, if that holds of the
child at the key; a missing one is null for both. -/
theorem alter_step (e : Edit) (value : Value) (child : Option Value)
    (absorbed : alter (fun _ => value) keys (e.make (keys ++ more) (child.getD .null)) =
      alter (fun _ => value) keys (child.getD .null)) :
    alter (fun _ => value) keys ((e.step (keys ++ more) child).getD .null) =
      alter (fun _ => value) keys (child.getD .null) := by
  cases e with
  | change f => exact absorbed
  | remove =>
    by_cases here : keys ++ more = []
    · obtain rfl := (List.append_eq_nil_iff.1 here).1
      rfl
    · rw [Edit.step, if_neg here]
      cases child with
      | none => rfl
      | some node => exact absorbed

/-- A value put at a place absorbs an edit there or behind it, with all that the edit did on the way. -/
theorem alter_make (e : Edit) (value : Value) (keys more : List String) (canonical : Value.Canonical tree) :
    alter (fun _ => value) keys (e.make (keys ++ more) tree) = alter (fun _ => value) keys tree := by
  induction keys generalizing tree with
  | nil => rfl
  | cons key keys ih =>
    apply Edit.eq_of_members rfl rfl
    apply Members.Ascending.ext
    · exact (Edit.ascending_make e key (keys ++ more) canonical.ascending).insert key _
    · exact canonical.ascending.insert key _
    · intro other
      rw [members_alter_cons, members_alter_cons, List.cons_append]
      by_cases here : other = key
      · subst here
        rw [Members.get?_insert_self, Members.get?_insert_self, Edit.get?_members_make, if_pos rfl]
        apply congrArg
        apply alter_step
        exact ih (canonical.getD other)
      · rw [Members.get?_insert_of_ne here, Members.get?_insert_of_ne here, Edit.get?_members_make, if_neg here]

/-! ## One merge over another -/

/-- Fields merged one after another come to all of them merged at once, if the later ones win. -/
theorem mergeMembers_mergeMembers {f g h ms : Members} (hf : Members.Ascending f) (hg : Members.Ascending g)
    (hh : Members.Ascending h) (wins : ∀ key, Members.get? key h = (Members.get? key g).or (Members.get? key f))
    (ascending : Members.Ascending ms) :
    mergeMembers g (mergeMembers f ms) = mergeMembers h ms := by
  apply Members.Ascending.ext
  · exact ascending_mergeMembers (ascending_mergeMembers ascending f) g
  · exact ascending_mergeMembers ascending h
  · intro key
    rw [get?_mergeMembers, get?_mergeMembers, get?_mergeMembers, hf.last?_eq, hg.last?_eq, hh.last?_eq, wins]
    cases Members.get? key g <;> rfl

/-- What a canonical tree leads to has ascending members; what is missing has none. -/
theorem ascending_follow (canonical : Value.Canonical tree) (keys : List String) :
    Members.Ascending ((follow keys tree).getD .null).members := by
  cases found : follow keys tree with
  | none => exact List.Pairwise.nil
  | some node => exact (Edit.canonical_of_follow canonical found).ascending

theorem update_update {f g h : Members} (hf : Members.Ascending f) (hg : Members.Ascending g)
    (hh : Members.Ascending h) (wins : ∀ key, Members.get? key h = (Members.get? key g).or (Members.get? key f))
    (canonical : Value.Canonical tree) :
    update keys g (update keys f tree) = update keys h tree := by
  rw [update, update, update, alter_alter]
  apply alter_congr
  apply congrArg Value.object
  exact mergeMembers_mergeMembers hf hg hh wins (ascending_follow canonical keys)

end Tree

open CodeGate.Store.Tree

variable {tree : Tree} {w : Write}

/-- A value put at a place absorbs all writes there and behind it, by induction on the writes. -/
theorem alter_applyAll (value : Value) {keys : List String} {writes : List Write}
    (behind : ∀ w ∈ writes, w.Canonical ∧ keys <+: w.place) (canonical : Value.Canonical tree) :
    alter (fun _ => value) keys (applyAll writes tree) = alter (fun _ => value) keys tree := by
  induction writes generalizing tree with
  | nil => rfl
  | cons w writes ih =>
    obtain ⟨⟨sound, more, place⟩, later⟩ := List.forall_mem_cons.1 behind
    calc alter (fun _ => value) keys (applyAll writes (w.apply tree))
      _ = alter (fun _ => value) keys (w.apply tree) := ih later (sound.apply canonical)
      _ = alter (fun _ => value) keys tree := by
        rw [Write.apply, ← place]
        exact alter_make w.edit value keys more canonical

/-- A write made twice comes to one. -/
theorem Write.Canonical.apply_apply (sound : w.Canonical) (canonical : Value.Canonical tree) :
    w.apply (w.apply tree) = w.apply tree := by
  cases w with
  | update path fields =>
    have ascending : Members.Ascending fields := (Value.canonical_object_iff.1 sound).1
    exact update_update ascending ascending ascending (fun key => by simp) canonical
  | set path value =>
    rw [Write.apply, Write.apply, Write.edit]
    split
    · exact remove_remove _ tree
    · exact alter_alter _ _ _ tree

namespace Memory

/-- **Later writes absorb earlier ones.** Take any tree whose objects have one member a key, in ascending order. A
value that is not null, set at a path with a segment, leaves the same tree whatever was written before at the path
and behind it. Two updates at one path leave the tree of a single one, with the fields of the second and those
of the first that the second does not name. And a write that is made again changes nothing. -/
theorem later_writes_absorb (canonical : Value.Canonical tree) :
    (∀ path value writes, segments path ≠ [] → value ≠ .null →
      (∀ w ∈ writes, w.Canonical ∧ segments path <+: w.place) →
        ∃ after, set path value tree = .ok after ∧ performAll (writes ++ [.set path value]) tree = .ok after) ∧
    (∀ path f g, segments path ≠ [] → Members.Ascending f → Members.Ascending g →
      ∃ h after, Members.Ascending h ∧
        (∀ key, Members.get? key h = (Members.get? key g).or (Members.get? key f)) ∧
        update path h tree = .ok after ∧ (update path f tree).bind (update path g) = .ok after) ∧
    ∀ w : Write, w.Canonical → (perform w tree).bind (perform w) = perform w tree := by
  refine ⟨?_, ?_, ?_⟩
  · intro path value writes rooted filled behind
    have rootedAll : ∀ w ∈ writes ++ [.set path value], w.place ≠ [] := by
      intro w hw
      rcases List.mem_append.1 hw with earlier | last
      · exact fun root => rooted (List.prefix_nil.1 (root ▸ (behind w earlier).2))
      · obtain rfl := List.mem_singleton.1 last
        exact rooted
    have put : ∀ tree, (Write.set path value).apply tree = alter (fun _ => value) (segments path) tree := by
      intro tree
      rw [Write.apply, Write.edit, if_neg filled]
      rfl
    refine ⟨(Write.set path value).apply tree, perform_eq (w := .set path value) rooted tree, ?_⟩
    rw [performAll_eq rootedAll, applyAll, List.foldl_append]
    apply congrArg
    calc (Write.set path value).apply (applyAll writes tree)
      _ = alter (fun _ => value) (segments path) (applyAll writes tree) := put _
      _ = alter (fun _ => value) (segments path) tree := alter_applyAll value behind canonical
      _ = (Write.set path value).apply tree := (put tree).symm
  · intro path f g rooted hf hg
    have wins : ∀ key, Members.get? key (Members.ofList (f ++ g)) =
        (Members.get? key g).or (Members.get? key f) := by
      intro key
      rw [Members.get?_ofList, Members.last?_append, hg.last?_eq, hf.last?_eq]
    have ascending := Members.ascending_ofList (f ++ g)
    refine ⟨_, tree.update (segments path) (Members.ofList (f ++ g)), ascending, wins, if_neg rooted, ?_⟩
    have first : update path f tree = .ok (tree.update (segments path) f) := if_neg rooted
    rw [first, ← update_update hf hg ascending wins canonical]
    exact if_neg rooted
  · intro w sound
    by_cases rooted : w.place = []
    · obtain ⟨refusal, refused⟩ := perform_root rooted tree
      rw [refused]
      rfl
    · calc (perform w tree).bind (perform w)
        _ = perform w (w.apply tree) := by rw [perform_eq rooted]; rfl
        _ = .ok (w.apply (w.apply tree)) := perform_eq rooted _
        _ = .ok (w.apply tree) := congrArg _ (sound.apply_apply canonical)
        _ = perform w tree := (perform_eq rooted tree).symm

/-- Behind a scalar a record is made, removed and made again before it is set; another one is updated twice. -/
theorem record_set_after_all :
    let tree : Tree := .object [("progress", .list [.null]), ("users", .object [("u1", .string "flat")])]
    let value : Value := .object [("name", .string "ada")]
    let writes : List Write := [.update "users/u1/log" [("a", .bool true), ("b", .null)], .set "users//u1" .null,
      .set "users/u1/log/a" (.number (.integer 1))]
    let clear : Write := .set "users/u1" .null
    Value.Canonical tree ∧ segments "users/u1" ≠ [] ∧ value ≠ .null ∧
      (∀ w ∈ writes, w.Canonical ∧ segments "users/u1" <+: w.place) ∧
      (∃ after, set "users/u1" value tree = .ok after ∧
        performAll (writes ++ [.set "users/u1" value]) tree = .ok after) ∧
      (∃ h after, Members.get? "a" h = some .null ∧ Members.get? "b" h = some (.bool true) ∧
        update "progress/u1" h tree = .ok after ∧
        (update "progress/u1" [("a", .bool true), ("b", .bool true)] tree).bind
          (update "progress/u1" [("a", .null)]) = .ok after) ∧
      (perform clear tree).bind (perform clear) = perform clear tree := by
  intro tree value writes clear
  have canonical : Value.Canonical tree := by decide
  have rooted : segments "users/u1" ≠ [] := by decide
  have filled : value ≠ .null := by decide
  have behind : ∀ w ∈ writes, w.Canonical ∧ segments "users/u1" <+: w.place := by decide
  obtain ⟨absorbed, merged, again⟩ := later_writes_absorb canonical
  obtain ⟨h, after, -, wins, once, twice⟩ :=
    merged "progress/u1" [("a", .bool true), ("b", .bool true)] [("a", .null)] (by decide) (by decide) (by decide)
  refine ⟨canonical, rooted, filled, behind, ?_, ⟨h, after, ?_, ?_, once, twice⟩, ?_⟩
  · exact absorbed "users/u1" value writes rooted filled behind
  · exact wins "a"
  · exact wins "b"
  · exact again clear trivial

end Memory

end CodeGate.Store
