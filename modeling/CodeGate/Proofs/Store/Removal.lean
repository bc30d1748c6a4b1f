import CodeGate.Proofs.Store.Edit
import CodeGate.Store.Memory

/-!
# Removing by null

Setting null at a path takes a key out of the node in front of it, and it makes no way: if that node is missing
or is no object, the tree stays as it was. The walk down to it changes one member in each object it goes
through, so all around them stands still.
-/

namespace CodeGate.Store

open CodeGate.Json

namespace Tree

variable {tree : Tree} {key : String} {keys more : List String} {ms : Members}

/-- The second tree is the first with the node that a row of keys leads to, `old`, replaced by `new`. All that
stands before and behind the nodes on the way is the same. -/
inductive Replaced (old new : Value) : List String → Tree → Tree → Prop where
  | here : Replaced old new [] old new
  | inside {key : String} {keys : List String} {child child' : Value} (front back : Members)
      (inner : Replaced old new keys child child') :
      Replaced old new (key :: keys) (.object (front ++ (key, child) :: back))
        (.object (front ++ (key, child') :: back))

/-! ## One member changed -/

theorem changeMember_of_absent (f : Value → Value) (absent : Members.get? key ms = none) :
    changeMember f key ms = ms := by
  have same : ∀ m ∈ ms, (if m.1 = key then (m.1, f m.2) else m) = m := by
    intro m hm
    exact if_neg (Members.get?_eq_none_iff.1 absent m hm)
  rw [changeMember, List.map_congr_left same, List.map_id']

/-- Where keys ascend, one member is changed and those around it are not. -/
theorem changeMember_between (f : Value → Value) {child : Value} {front back : Members}
    (ascending : Members.Ascending (front ++ (key, child) :: back)) :
    changeMember f key (front ++ (key, child) :: back) = front ++ (key, f child) :: back := by
  have distinct := ascending.distinct
  rw [List.map_append, List.map_cons, List.nodup_append] at distinct
  obtain ⟨-, fromHere, apart⟩ := distinct
  have absentInFront : Members.get? key front = none := by
    rw [Members.get?_eq_none_iff]
    exact fun m hm => apart _ (List.mem_map_of_mem hm) _ List.mem_cons_self
  have absentBehind : Members.get? key back = none := by
    rw [Members.get?_eq_none_iff]
    intro m hm same
    exact (List.nodup_cons.1 fromHere).1 (List.mem_map.2 ⟨m, hm, same⟩)
  calc changeMember f key (front ++ (key, child) :: back)
    _ = changeMember f key front ++ (key, f child) :: changeMember f key back := by simp [changeMember]
    _ = front ++ (key, f child) :: back := by
      rw [changeMember_of_absent f absentInFront, changeMember_of_absent f absentBehind]

theorem changeMember_eq_insert (f : Value → Value) {key : String} {child : Value} {ms : Members}
    (ascending : Members.Ascending ms) (member : Members.get? key ms = some child) :
    changeMember f key ms = Members.insert key (f child) ms := by
  apply (Edit.ascending_changeMember ascending f key).ext (ascending.insert key (f child))
  intro other
  rw [get?_changeMember]
  by_cases here : other = key
  · rw [if_pos here, here, member, Members.get?_insert_self]
    rfl
  · rw [if_neg here, Members.get?_insert_of_ne here]

theorem changeMember_changeMember (f g : Value → Value) (key : String) (ms : Members) :
    changeMember g key (changeMember f key ms) = changeMember (fun v => g (f v)) key ms := by
  rw [changeMember, changeMember, List.map_map]
  apply List.map_congr_left
  intro m _
  by_cases same : m.1 = key <;> simp [same]

/-! ## One node replaced -/

/-- A node that is reached can be taken for itself. -/
theorem replaced_self {node : Value} (reached : follow keys tree = some node) :
    Replaced node node keys tree tree := by
  induction keys generalizing tree with
  | nil =>
    obtain rfl := Option.some.inj reached
    exact .here
  | cons key keys ih =>
    cases tree with
    | object ms =>
      rw [follow_cons] at reached
      obtain ⟨child, member, reached⟩ := Option.bind_eq_some_iff.1 reached
      have inner := ih reached
      obtain ⟨front, back, rfl⟩ := List.append_of_mem (Members.mem_of_get? member)
      exact .inside front back inner
    | _ => cases reached

/-- In a canonical tree one node is replaced in one way, which is to alter it. -/
theorem Replaced.eq_alter {old new : Value} {after : Tree} {f : Value → Value}
    (replaced : Replaced old new keys tree after) (made : new = f old) (canonical : Value.Canonical tree) :
    after = alter f keys tree := by
  induction replaced with
  | here => exact made
  | @inside key keys child child' front back inner ih =>
    have ascending : Members.Ascending (front ++ (key, child) :: back) := canonical.ascending
    have member : Members.get? key (front ++ (key, child) :: back) = some child :=
      ascending.mem_iff.1 (List.mem_append_right front List.mem_cons_self)
    calc Value.object (front ++ (key, child') :: back)
      _ = .object (changeMember (fun _ => child') key (front ++ (key, child) :: back)) := by
        rw [changeMember_between _ ascending]
      _ = .object (Members.insert key (alter f keys child) (front ++ (key, child) :: back)) := by
        rw [changeMember_eq_insert _ ascending member, ih (canonical.get? member)]
      _ = alter f (key :: keys) (.object (front ++ (key, child) :: back)) := by
        rw [alter_cons, Value.members, member]
        rfl

/-! ## The walk of a removal -/

theorem remove_of_notObject (scalar : tree.isObject = false) (keys : List String) : remove keys tree = tree :=
  Edit.make_of_notObject (e := .remove) rfl scalar keys

theorem remove_cons_object (further : keys ≠ []) (key : String) (ms : Members) :
    remove (key :: keys) (.object ms) = .object (changeMember (remove keys) key ms) := by
  cases keys with
  | nil => exact absurd rfl further
  | cons key' keys => rfl

/-- A removal makes no null of a node, and leaves one that is there. -/
theorem remove_eq_null_iff (keys : List String) (node : Value) : remove keys node = .null ↔ node = .null := by
  rcases keys with _ | ⟨key, _ | ⟨key', keys⟩⟩ <;> cases node <;> simp [remove]

/-- What is found on the way of a removal is the node before, without what is removed behind it. -/
theorem follow_remove_front (further : more ≠ []) (front : List String) (tree : Tree) :
    follow front (remove (front ++ more) tree) = (follow front tree).map (remove more) := by
  induction front generalizing tree with
  | nil => rfl
  | cons key keys ih =>
    have longer : keys ++ more ≠ [] := List.append_ne_nil_of_right_ne_nil keys further
    rw [List.cons_append, follow_cons, follow_cons, get?_members_remove, if_pos rfl, if_neg longer]
    cases Members.get? key tree.members with
    | none => rfl
    | some child => exact ih child

/-- A removal that reaches a node changes that node alone. -/
theorem replaced_remove (further : more ≠ []) {front : List String} {node : Value} (canonical : Value.Canonical tree)
    (found : follow front tree = some node) :
    Replaced node (remove more node) front tree (remove (front ++ more) tree) := by
  induction front generalizing tree with
  | nil =>
    obtain rfl := Option.some.inj found
    exact .here
  | cons key keys ih =>
    have longer : keys ++ more ≠ [] := List.append_ne_nil_of_right_ne_nil keys further
    cases tree with
    | object ms =>
      rw [follow_cons] at found
      obtain ⟨child, member, found⟩ := Option.bind_eq_some_iff.1 found
      have inner := ih (canonical.get? member) found
      obtain ⟨front, back, rfl⟩ := List.append_of_mem (Members.mem_of_get? member)
      rw [List.cons_append, remove_cons_object longer, changeMember_between _ canonical.ascending]
      exact .inside front back inner
    | _ => cases found

/-- A removal that does not reach an object leaves the tree alone. -/
theorem remove_of_noObject (canonical : Value.Canonical tree) {parents : List String}
    (noObject : ∀ ms, follow parents tree ≠ some (.object ms)) (key : String) :
    remove (parents ++ [key]) tree = tree := by
  induction parents generalizing tree with
  | nil =>
    cases tree with
    | object ms => exact absurd rfl (noObject ms)
    | _ => rfl
  | cons first keys ih =>
    have longer : keys ++ [key] ≠ [] := List.append_ne_nil_of_right_ne_nil keys (List.cons_ne_nil key [])
    cases tree with
    | object ms =>
      rw [List.cons_append, remove_cons_object longer]
      cases member : Members.get? first ms with
      | none => rw [changeMember_of_absent _ member]
      | some child =>
        have unreached : ∀ ms, follow keys child ≠ some (.object ms) := by
          intro inner reached
          apply noObject inner
          rw [follow_cons, Value.members, member]
          exact reached
        have still := ih (canonical.get? member) unreached
        obtain ⟨front, back, rfl⟩ := List.append_of_mem (Members.mem_of_get? member)
        rw [changeMember_between _ canonical.ascending, still]
    | _ => exact remove_of_notObject rfl _

/-- A second removal finds nothing more to remove. -/
theorem remove_remove (keys : List String) (tree : Tree) : remove keys (remove keys tree) = remove keys tree := by
  induction keys generalizing tree with
  | nil => rfl
  | cons key keys ih =>
    cases tree with
    | object ms =>
      by_cases last : keys = []
      · subst last
        simp [remove]
      · rw [remove_cons_object last, remove_cons_object last, changeMember_changeMember, funext ih]
    | _ => exact congrArg (remove (key :: keys)) (remove_of_notObject rfl (key :: keys))

theorem isSome_reading (node : Value) : (reading node).isSome ↔ node ≠ .null := by
  by_cases isNull : node = .null <;> simp [reading, isNull]

/-- On the way of a removal something is stored exactly where it was before. -/
theorem isSome_get?_remove_front (further : more ≠ []) (front : List String) (tree : Tree) :
    (get? front (remove (front ++ more) tree)).isSome ↔ (get? front tree).isSome := by
  rw [get?_eq, get?_eq, follow_remove_front further]
  cases follow front tree with
  | none => rfl
  | some node =>
    rw [Option.map_some, Option.bind_some, Option.bind_some, isSome_reading, isSome_reading, not_iff_not]
    exact remove_eq_null_iff more node

end Tree

namespace Memory

open CodeGate.Store.Tree

variable {path : String} {tree : Tree}

/-- **Setting null removes and never creates.** Take any tree whose objects have one member a key, in ascending
order, and a path with a segment. Setting null there succeeds. If what stands in front of the last segment is
an object, the tree afterwards is the one before but for that object, which has lost the key; in every other case
it is the one before. Nothing is stored at the path then; at paths apart from it the same is stored as before;
and on the way to it something is stored exactly where it was. -/
theorem null_removes (rooted : segments path ≠ []) (canonical : Value.Canonical tree) :
    ∃ parents key after, segments path = parents ++ [key] ∧ set path .null tree = .ok after ∧
      (∀ ms, follow parents tree = some (.object ms) →
        Replaced (.object ms) (.object (Members.erase key ms)) parents tree after) ∧
      ((∀ ms, follow parents tree ≠ some (.object ms)) → after = tree) ∧
      get? path after = none ∧
      (∀ other, Apart (segments path) (segments other) → get? other after = get? other tree) ∧
      ∀ front more, segments path = segments front ++ more → more ≠ [] →
        ((get? front after).isSome ↔ (get? front tree).isSome) := by
  obtain ⟨parents, key, way⟩ := List.eq_nil_or_concat' (segments path) |>.resolve_left rooted
  have removed : Tree.set (segments path) .null tree = remove (segments path) tree := if_pos rfl
  refine ⟨parents, key, Tree.set (segments path) .null tree, way, if_neg rooted, ?_, ?_, ?_, ?_, ?_⟩
  · intro ms reached
    rw [removed, way]
    exact replaced_remove (List.cons_ne_nil key []) canonical reached
  · intro noObject
    rw [removed, way]
    exact remove_of_noObject canonical noObject key
  · exact get?_set_self rooted .null tree
  · intro other apart
    exact get?_set_of_apart apart .null tree
  · intro front more behind further
    rw [removed, behind]
    exact isSome_get?_remove_front further (segments front) tree

/-- A record loses its only member, in the middle of other records, and stays as an empty object. -/
theorem only_step_removed :
    let step : Value := .object [("step", .number (.integer 3))]
    let tree : Tree := .object [("progress", .object [("u0", .null), ("u1", step), ("u2", .list [.null])]),
      ("users", .string "flat")]
    segments "progress//u1/step" ≠ [] ∧ Value.Canonical tree ∧
      ∃ after, set "progress//u1/step" .null tree = .ok after ∧
        Replaced step .empty ["progress", "u1"] tree after ∧ get? "progress//u1/step" after = none ∧
        get? "progress/u2" after = some (.list [.null]) ∧ (get? "progress/u1" after).isSome := by
  intro step tree
  have rooted : segments "progress//u1/step" ≠ [] := by decide
  have canonical : Value.Canonical tree := by decide
  obtain ⟨parents, key, after, way, done, replaced, -, gone, apart, onTheWay⟩ := null_removes rooted canonical
  obtain ⟨rfl, rfl⟩ : parents = ["progress", "u1"] ∧ key = "step" := by
    have cut : segments "progress//u1/step" = ["progress", "u1"] ++ ["step"] := by decide
    simpa using List.append_inj' (way.symm.trans cut) rfl
  have lost : Members.erase "step" [("step", .number (.integer 3))] = [] := by decide
  have reached : follow ["progress", "u1"] tree = some step := by decide
  refine ⟨rooted, canonical, after, done, ?_, gone, ?_, ?_⟩
  · have only := replaced _ reached
    rw [lost] at only
    exact only
  · exact apart "progress/u2" (by decide)
  · exact (onTheWay "progress/u1" ["step"] (by decide) (by simp)).2 (by decide)

end Memory

end CodeGate.Store
