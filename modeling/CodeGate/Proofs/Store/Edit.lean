import CodeGate.Proofs.Json.Canonical
import CodeGate.Proofs.Store.Tree

/-!
# Edits at places apart

Every write to a tree is an edit at a place: the node there is changed, and way is made for it, or it is
taken away. At a key of the root an edit comes to one step from the child there, which may be missing, to
the child afterwards. Two edits at places apart take their steps at different keys, or behind one key
they share, so by induction on the shared keys they can be made in either order.
-/

namespace CodeGate.Store.Tree

open CodeGate.Json

/-- What a write does to the node at its place. -/
inductive Edit where
  | change (f : Value → Value)
  | remove

namespace Edit

variable {e e' : Edit} {p q : List String} {tree : Tree}

/-- The tree with an edit made at a place. -/
def make : Edit → List String → Tree → Tree
  | change f, keys, tree => alter f keys tree
  | remove, keys, tree => Tree.remove keys tree

/-- Whether the edit makes way for itself. -/
def creates : Edit → Bool
  | change _ => true
  | remove => false

/-- What an edit behind a key does to the child at that key, which may be missing. -/
def step : Edit → List String → Option Value → Option Value
  | change f, keys, child => some (alter f keys (child.getD .null))
  | remove, keys, child => if keys = [] then none else child.map (Tree.remove keys)

/-- An edit is seen at its first key only, where it takes one step. -/
theorem get?_members_make (e : Edit) (key : String) (keys : List String) (tree : Tree) (other : String) :
    Members.get? other (e.make (key :: keys) tree).members =
      if other = key then e.step keys (Members.get? other tree.members)
      else Members.get? other tree.members := by
  cases e with
  | change f =>
    simp only [make, members_alter_cons, step]
    by_cases same : other = key
    · subst same
      rw [if_pos rfl, Members.get?_insert_self]
    · rw [if_neg same, Members.get?_insert_of_ne same]
  | remove => exact get?_members_remove key keys tree other

/-! ## Objects on the way -/

/-- Where nothing can be made or removed, an edit leaves the tree alone. -/
theorem make_of_notObject (lazy : e.creates = false) (scalar : tree.isObject = false) (keys : List String) :
    e.make keys tree = tree := by
  cases e with
  | change f => cases lazy
  | remove =>
    cases tree with
    | object ms => cases scalar
    | _ => rcases keys with _ | ⟨_, _ | _⟩ <;> rfl

theorem isObject_make (e : Edit) (key : String) (keys : List String) (tree : Tree) :
    (e.make (key :: keys) tree).isObject = (tree.isObject || e.creates) := by
  cases e with
  | change f => simp [make, alter, Value.isObject, creates]
  | remove =>
    cases tree with
    | object ms => cases keys <;> rfl
    | _ => cases keys <;> rfl

theorem eq_of_members {t t' : Tree} (h : t.isObject = true) (h' : t'.isObject = true)
    (same : t.members = t'.members) : t = t' := by
  cases t <;> cases h
  cases t' <;> cases h'
  exact congrArg Value.object same

/-! ## Canonical trees -/

/-- The members with one of them changed have the same keys. -/
theorem keys_changeMember (f : Value → Value) (key : String) (ms : Members) :
    (changeMember f key ms).map Prod.fst = ms.map Prod.fst := by
  rw [changeMember, List.map_map]
  apply List.map_congr_left
  intro m _
  by_cases same : m.1 = key <;> simp [same]

theorem ascending_changeMember {ms : Members} (h : Members.Ascending ms) (f : Value → Value) (key : String) :
    Members.Ascending (changeMember f key ms) := by
  rw [Members.Ascending, keys_changeMember]
  exact h

/-- Following keys through a canonical tree leads to canonical nodes. -/
theorem canonical_of_follow {keys : List String} {node : Value} (canonical : tree.Canonical)
    (found : follow keys tree = some node) : node.Canonical :=
  of_follow (fun canonical member => canonical.get? member) canonical found

/-- An edit of canonical values: what it changes stays canonical. -/
def Sound : Edit → Prop
  | change f => ∀ v : Value, v.Canonical → (f v).Canonical
  | remove => True

theorem canonical_alter {f : Value → Value} (sound : (change f).Sound) (keys : List String)
    (canonical : tree.Canonical) : (alter f keys tree).Canonical := by
  induction keys generalizing tree with
  | nil => exact sound tree canonical
  | cons key keys ih => exact canonical.members.insert key (ih (canonical.getD key))

theorem canonical_remove (keys : List String) (canonical : tree.Canonical) :
    (Tree.remove keys tree).Canonical := by
  apply remove_keeps _ _ keys canonical
  · exact fun key ms canonical => canonical.erase key
  · intro f key ms keeps canonical
    obtain ⟨ascending, each⟩ := Value.canonical_object_iff.1 canonical
    apply Value.canonical_object_iff.2
    exact ⟨ascending_changeMember ascending f key, forall_mem_changeMember keeps each key⟩

theorem Sound.canonical_make (sound : e.Sound) (keys : List String) (canonical : tree.Canonical) :
    (e.make keys tree).Canonical := by
  cases e with
  | change f => exact canonical_alter sound keys canonical
  | remove => exact canonical_remove keys canonical

/-- The keys of the root ascend after any edit below it. -/
theorem ascending_make (e : Edit) (key : String) (keys : List String)
    (ascending : Members.Ascending tree.members) :
    Members.Ascending (e.make (key :: keys) tree).members := by
  cases e with
  | change f => exact ascending.insert key _
  | remove =>
    cases tree with
    | object ms =>
      cases keys with
      | nil => exact Members.Ascending.erase ascending key
      | cons key' keys => exact ascending_changeMember ascending _ key
    | _ => cases keys <;> exact List.Pairwise.nil

/-! ## Either order -/

theorem remove_null (keys : List String) : Tree.remove keys .null = .null :=
  make_of_notObject (e := .remove) rfl rfl keys

/-- Behind a key that two edits share, either order of their steps leads to one child if either order of
the edits leads to one tree. A missing child is there afterwards only if one of the edits creates. -/
theorem step_comm (hp : p ≠ []) (hq : q ≠ []) (child : Option Value)
    (comm : e.make p (e'.make q (child.getD .null)) = e'.make q (e.make p (child.getD .null))) :
    e.step p (e'.step q child) = e'.step q (e.step p child) := by
  cases child with
  | some v => cases e <;> cases e' <;> simpa [step, make, hp, hq] using comm
  | none =>
    cases e with
    | change f =>
      cases e' with
      | change g => simpa [step, make] using comm
      | remove => simpa [step, make, hq, remove_null] using comm
    | remove =>
      cases e' with
      | change g => simpa [step, make, hp, remove_null] using comm
      | remove => simp [step, hp, hq]

/-- Edits at places apart leave the same at every key of the root in either order. -/
theorem get?_make_comm {a b : String} (apart : Apart (a :: p) (b :: q)) (tree : Tree)
    (comm : ∀ key, Apart p q → e.make p (e'.make q ((Members.get? key tree.members).getD .null)) =
      e'.make q (e.make p ((Members.get? key tree.members).getD .null))) (key : String) :
    Members.get? key (e.make (a :: p) (e'.make (b :: q) tree)).members =
      Members.get? key (e'.make (b :: q) (e.make (a :: p) tree)).members := by
  simp only [get?_members_make]
  by_cases shared : a = b
  · subst shared
    have inner : Apart p q := apart_cons.1 apart rfl
    by_cases here : key = a
    · rw [if_pos here, if_pos here, if_pos here, if_pos here]
      exact step_comm inner.ne_nil.1 inner.ne_nil.2 _ (comm key inner)
    · rw [if_neg here, if_neg here, if_neg here, if_neg here]
  · by_cases here : key = a
    · have elsewhere : key ≠ b := fun there => shared (here.symm.trans there)
      rw [if_pos here, if_neg elsewhere, if_neg elsewhere, if_pos here]
    · rw [if_neg here, if_neg here]

/-- Edits at places apart can be made in either order. -/
theorem make_comm (e e' : Edit) (apart : Apart p q) (canonical : tree.Canonical) :
    e.make p (e'.make q tree) = e'.make q (e.make p tree) := by
  induction p generalizing q tree with
  | nil => exact absurd rfl apart.ne_nil.1
  | cons a p ih =>
    obtain ⟨b, q, rfl⟩ := List.exists_cons_of_ne_nil apart.ne_nil.2
    by_cases lazy : tree.isObject = false ∧ e.creates = false ∧ e'.creates = false
    · -- neither edit makes an object of the root, so neither does anything
      obtain ⟨scalar, lazy, lazy'⟩ := lazy
      rw [make_of_notObject lazy' scalar, make_of_notObject lazy scalar, make_of_notObject lazy' scalar]
    · have ascending := canonical.ascending
      have members : (e.make (a :: p) (e'.make (b :: q) tree)).members =
          (e'.make (b :: q) (e.make (a :: p) tree)).members := by
        apply Members.Ascending.ext
        · exact ascending_make e a p (ascending_make e' b q ascending)
        · exact ascending_make e' b q (ascending_make e a p ascending)
        · exact get?_make_comm apart tree fun key inner => ih inner (canonical.getD key)
      apply eq_of_members _ _ members
      · rw [isObject_make, isObject_make]
        grind
      · rw [isObject_make, isObject_make]
        grind

end Edit

end CodeGate.Store.Tree
