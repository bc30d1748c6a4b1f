import CodeGate.Proofs.Json.Members
import CodeGate.Store.Tree

/-!
# Reading a tree after a write

A write at a place is described by what is found afterwards: at the place itself, and at every place
apart from it, which is one that neither lies on the way to it nor behind it.
-/

namespace CodeGate.Store.Tree

open CodeGate.Json

/-- Two places are apart if neither lies on the way to the other. -/
def Apart (p r : List String) : Prop := ¬p <+: r ∧ ¬r <+: p

instance : DecidableRel Apart := fun p r => inferInstanceAs (Decidable (¬p <+: r ∧ ¬r <+: p))

theorem apart_cons {a b : String} {p r : List String} :
    Apart (a :: p) (b :: r) ↔ a = b → Apart p r := by
  by_cases same : a = b
  · simp [Apart, same]
  · simp [Apart, same, Ne.symm same]

theorem Apart.ne_nil {p r : List String} (h : Apart p r) : p ≠ [] ∧ r ≠ [] :=
  ⟨fun e => h.1 (e ▸ List.nil_prefix), fun e => h.2 (e ▸ List.nil_prefix)⟩

variable {p r : List String} {tree : Tree}

/-! ## Following a row of keys -/

theorem follow_cons (key : String) (keys : List String) (tree : Tree) :
    follow (key :: keys) tree = (Members.get? key tree.members).bind (follow keys) := by
  cases tree with
  | object ms => cases h : Members.get? key ms <;> simp [follow, Value.members, h]
  | _ => simp [follow, Value.members, Members.get?]

/-- From null, which has no members, nothing is found but itself. -/
theorem follow_null (keys : List String) : (follow keys .null).getD .null = .null := by
  cases keys <;> rfl

theorem follow_getD_cons (key : String) (keys : List String) (tree : Tree) :
    (follow (key :: keys) tree).getD .null =
      (follow keys ((Members.get? key tree.members).getD .null)).getD .null := by
  rw [follow_cons]
  cases Members.get? key tree.members with
  | none => simp [follow_null]
  | some child => rfl

/-- What a value hands down to its members holds of all that a row of keys leads to. -/
theorem of_follow {P : Value → Prop}
    (inherited : ∀ {v child : Value} {key : String}, P v → Members.get? key v.members = some child → P child)
    {keys : List String} {node : Value} (holds : P tree) (found : follow keys tree = some node) : P node := by
  induction keys generalizing tree with
  | nil =>
    obtain rfl := Option.some.inj found
    exact holds
  | cons key keys ih =>
    rw [follow_cons] at found
    obtain ⟨child, member, found⟩ := Option.bind_eq_some_iff.1 found
    exact ih (inherited holds member) found

/-! ## Altering a node -/

theorem alter_cons (f : Value → Value) (key : String) (keys : List String) (tree : Tree) :
    alter f (key :: keys) tree =
      .object (Members.insert key (alter f keys ((Members.get? key tree.members).getD .null)) tree.members) := rfl

theorem members_alter_cons (change : Value → Value) (key : String) (keys : List String) (tree : Tree) :
    (alter change (key :: keys) tree).members =
      Members.insert key (alter change keys ((Members.get? key tree.members).getD .null)) tree.members := rfl

/-- At its place an alteration leaves the changed node; a missing one counts as null. -/
theorem follow_alter_self (change : Value → Value) (keys : List String) (tree : Tree) :
    follow keys (alter change keys tree) = some (change ((follow keys tree).getD .null)) := by
  induction keys generalizing tree with
  | nil => rfl
  | cons key keys ih =>
    rw [follow_cons, members_alter_cons, Members.get?_insert_self, Option.bind_some, ih,
      follow_getD_cons]

theorem follow_alter_of_apart (change : Value → Value) (h : Apart p r) (tree : Tree) :
    follow r (alter change p tree) = follow r tree := by
  induction p generalizing r tree with
  | nil => exact absurd rfl h.ne_nil.1
  | cons a p ih =>
    cases r with
    | nil => exact absurd rfl h.ne_nil.2
    | cons b r =>
      rw [follow_cons, follow_cons, members_alter_cons]
      by_cases same : a = b
      · subst same
        rw [Members.get?_insert_self, Option.bind_some, ih (apart_cons.1 h rfl)]
        cases Members.get? a tree.members with
        | some child => rfl
        | none =>
          obtain ⟨c, r', rfl⟩ := List.exists_cons_of_ne_nil (apart_cons.1 h rfl).ne_nil.2
          rfl
      · rw [Members.get?_insert_of_ne (Ne.symm same)]

/-! ## Merging members -/

theorem mergeMembers_cons (f : String × Value) (fields ms : Members) :
    mergeMembers (f :: fields) ms =
      mergeMembers fields (if f.2 = .null then Members.erase f.1 ms else Members.insert f.1 f.2 ms) := rfl

/-- What erasing keeps, and what putting in each value of the fields keeps, is kept by merging the fields. -/
theorem mergeMembers_keeps {P : Members → Prop} {fields ms : Members}
    (erase : ∀ key ms, P ms → P (Members.erase key ms))
    (insert : ∀ f ∈ fields, f.2 ≠ .null → ∀ ms, P ms → P (Members.insert f.1 f.2 ms)) (holds : P ms) :
    P (mergeMembers fields ms) := by
  induction fields generalizing ms with
  | nil => exact holds
  | cons f fields ih =>
    obtain ⟨first, later⟩ := List.forall_mem_cons.1 insert
    rw [mergeMembers_cons]
    apply ih later
    split
    · exact erase f.1 ms holds
    · next filled => exact first filled ms holds

/-! ## Removing a node -/

/-- What holds of the value of every member still does once one of them is changed. -/
theorem forall_mem_changeMember {P : Value → Prop} {f : Value → Value} {ms : Members}
    (keeps : ∀ v, P v → P (f v)) (each : ∀ m ∈ ms, P m.2) (key : String) :
    ∀ m ∈ changeMember f key ms, P m.2 := by
  intro m hm
  obtain ⟨n, hn, rfl⟩ := List.mem_map.1 hm
  by_cases same : n.1 = key
  · simpa [same] using keeps n.2 (each n hn)
  · simpa [same] using each n hn

/-- What erasing a member keeps, and what changing one keeps, is kept by every removal. -/
theorem remove_keeps {P : Value → Prop}
    (erase : ∀ key ms, P (.object ms) → P (.object (Members.erase key ms)))
    (change : ∀ f key ms, (∀ v, P v → P (f v)) → P (.object ms) → P (.object (changeMember f key ms)))
    (keys : List String) (holds : P tree) : P (remove keys tree) := by
  induction keys generalizing tree with
  | nil => exact holds
  | cons key keys ih =>
    cases tree with
    | object ms =>
      cases keys with
      | nil => exact erase key ms holds
      | cons key' keys => exact change _ key ms (fun v hv => ih hv) holds
    | _ => cases keys <;> exact holds

theorem get?_changeMember (change : Value → Value) (key other : String) (ms : Members) :
    Members.get? other (changeMember change key ms) =
      if other = key then (Members.get? other ms).map change else Members.get? other ms := by
  induction ms with
  | nil => simp [changeMember, Members.get?]
  | cons m ms ih =>
    obtain ⟨k, v⟩ := m
    simp only [changeMember, List.map_cons, Members.get?] at ih ⊢
    by_cases same : k = key
    · subst same
      by_cases here : k = other
      · simp [here]
      · simp [here, Ne.symm here, ih]
    · by_cases here : k = other
      · subst here; simp [same]
      · simp [same, here, ih]

/-- What a removal leaves to be found at a key of the root. -/
theorem get?_members_remove (key : String) (keys : List String) (tree : Tree) (other : String) :
    Members.get? other (remove (key :: keys) tree).members =
      if other = key then
        if keys = [] then none else (Members.get? other tree.members).map (remove keys)
      else Members.get? other tree.members := by
  cases tree with
  | object ms =>
    cases keys with
    | nil =>
      by_cases same : other = key
      · simp [remove, Value.members, same]
      · simp [remove, Value.members, same, Members.get?_erase_of_ne same]
    | cons key' keys => simp [remove, Value.members, get?_changeMember]
  | _ => cases keys <;> simp [remove, Value.members, Members.get?]

/-- Nothing is left at the place of a removal. -/
theorem follow_remove_self (h : p ≠ []) (tree : Tree) : follow p (remove p tree) = none := by
  induction p generalizing tree with
  | nil => exact absurd rfl h
  | cons key keys ih =>
    rw [follow_cons, get?_members_remove, if_pos rfl]
    by_cases last : keys = []
    · simp [last]
    · rw [if_neg last]
      cases Members.get? key tree.members with
      | none => rfl
      | some child => exact ih last child

theorem follow_remove_of_apart (h : Apart p r) (tree : Tree) : follow r (remove p tree) = follow r tree := by
  induction p generalizing r tree with
  | nil => exact absurd rfl h.ne_nil.1
  | cons a p ih =>
    cases r with
    | nil => exact absurd rfl h.ne_nil.2
    | cons b r =>
      rw [follow_cons, follow_cons, get?_members_remove]
      by_cases same : b = a
      · subst same
        have further := apart_cons.1 h rfl
        rw [if_pos rfl, if_neg further.ne_nil.1]
        cases Members.get? b tree.members with
        | none => rfl
        | some child => exact ih further child
      · rw [if_neg same]

/-! ## What is stored after a write -/

/-- What a node reads as: null counts as nothing. -/
def reading (node : Value) : Option Value := if node = .null then none else some node

theorem get?_eq (keys : List String) (tree : Tree) : get? keys tree = (follow keys tree).bind reading := by
  unfold get?
  split
  · next h => simp [h, reading]
  · next h =>
    cases found : follow keys tree with
    | none => rfl
    | some v =>
      have notNull : v ≠ .null := fun e => h (e ▸ found)
      simp [reading, notNull]

/-- A written value is found at its place; null is not. -/
theorem get?_set_self (h : p ≠ []) (v : Value) (tree : Tree) : get? p (set p v tree) = reading v := by
  rw [get?_eq, set]
  split
  · next isNull => rw [follow_remove_self h, isNull]; rfl
  · rw [follow_alter_self]; rfl

theorem get?_set_of_apart (h : Apart p r) (v : Value) (tree : Tree) :
    get? r (set p v tree) = get? r tree := by
  rw [get?_eq, get?_eq, set]
  split
  · rw [follow_remove_of_apart h]
  · rw [follow_alter_of_apart _ h]

theorem members_getD_get? (keys : List String) (tree : Tree) :
    ((get? keys tree).getD .empty).members = ((follow keys tree).getD .null).members := by
  rw [get?_eq]
  cases follow keys tree with
  | none => rfl
  | some v =>
    by_cases isNull : v = .null
    · simp [reading, isNull, Value.empty, Value.members]
    · simp [reading, isNull]

/-- At its place an update leaves an object: the fields are merged into what was one before. -/
theorem get?_update_self (keys : List String) (fields : Members) (tree : Tree) :
    get? keys (update keys fields tree) =
      some (.object (mergeMembers fields ((get? keys tree).getD .empty).members)) := by
  rw [get?_eq, update, follow_alter_self, members_getD_get?]
  simp [reading]

theorem get?_update_of_apart (h : Apart p r) (fields : Members) (tree : Tree) :
    get? r (update p fields tree) = get? r tree := by
  rw [get?_eq, get?_eq, update, follow_alter_of_apart _ h]

end CodeGate.Store.Tree
