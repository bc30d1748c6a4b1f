import CodeGate.Proofs.Store.Tree
import CodeGate.Store.Memory

/-!
# Reading back what was set

A value set at a path is found there, what is inside it is found behind the path, and what is apart from
the path is found as before. The nodes on the way are objects afterwards, with all members they had and
the next key. No step of the way can fail: the walk is also written as steps that index one node after
another, where a node that cannot be indexed would stop it, and that walk always arrives.
-/

namespace CodeGate.Store

open CodeGate.Json

namespace Tree

variable {tree : Tree}

/-! ## Ways in two parts -/

theorem follow_append (keys more : List String) (tree : Tree) :
    follow (keys ++ more) tree = (follow keys tree).bind (follow more) := by
  induction keys generalizing tree with
  | nil => rfl
  | cons key keys ih =>
    rw [List.cons_append, follow_cons, follow_cons]
    cases Members.get? key tree.members with
    | none => rfl
    | some child => exact ih child

theorem alter_append (f : Value → Value) (keys more : List String) (tree : Tree) :
    alter f (keys ++ more) tree = alter (alter f more) keys tree := by
  induction keys generalizing tree with
  | nil => rfl
  | cons key keys ih => simp only [List.cons_append, alter, ih]

/-- Behind the place of an alteration, what is found is found in the changed node. -/
theorem follow_alter_behind (f : Value → Value) (keys more : List String) (tree : Tree) :
    follow (keys ++ more) (alter f keys tree) = follow more (f ((follow keys tree).getD .null)) := by
  rw [follow_append, follow_alter_self]
  rfl

/-- What is no object has no members, and what is missing has none. -/
theorem members_getD_of_noObject {node : Option Value} (noObject : ∀ ms, node ≠ some (.object ms)) :
    (node.getD .null).members = [] := by
  rcases node with _ | node
  · rfl
  · cases node with
    | object ms => exact absurd rfl (noObject ms)
    | _ => rfl

/-- What an alteration leaves of a node on its way, where it goes on by a key: the members of an object, but
for the one at that key; what was no object has that key alone. -/
structure OnTheWay (key : String) (before : Option Value) (ms : Members) : Prop where
  kept : ∀ old, before = some (.object old) →
    ∀ other, other ≠ key → Members.get? other ms = Members.get? other old
  alone : (∀ old, before ≠ some (.object old)) → ∃ child, ms = [(key, child)]

theorem onTheWay_insert (key : String) (child : Value) (before : Option Value) :
    OnTheWay key before (Members.insert key child (before.getD .null).members) where
  kept := by
    rintro old rfl other differ
    exact Members.get?_insert_of_ne differ child old
  alone := by
    intro noObject
    rw [members_getD_of_noObject noObject]
    exact ⟨child, rfl⟩

/-- Every node on the way of an alteration is an object afterwards. -/
theorem follow_alter_front (f : Value → Value) (front : List String) (key : String) (keys : List String)
    (tree : Tree) :
    ∃ ms, follow front (alter f (front ++ key :: keys) tree) = some (.object ms) ∧
      OnTheWay key (follow front tree) ms := by
  rw [alter_append, follow_alter_self]
  exact ⟨_, rfl, onTheWay_insert key _ _⟩

theorem get?_set_behind {value : Value} (filled : value ≠ .null) (keys more : List String) (tree : Tree) :
    get? (keys ++ more) (set keys value tree) = get? more value := by
  rw [set, if_neg filled, get?_eq, get?_eq, follow_alter_behind]

/-! ## Walking by indexing -/

/-- The members of a node that is indexed by a key for writing. Null counts as an empty object, a missing
key gets null, and every other node that is no object cannot be indexed. -/
def indexed? (key : String) (node : Value) : Option Members :=
  let entered (ms : Members) : Members :=
    if (Members.get? key ms).isSome then ms else Members.insert key .null ms
  match node with
  | .null => some (entered [])
  | .object ms => some (entered ms)
  | _ => none

/-- The tree with the node at a place changed, by indexing one node after another. A node that is no object
is overwritten with null before it is indexed. -/
def walk? (f : Value → Value) : List String → Value → Option Value
  | [], node => some (f node)
  | key :: keys, node => do
    let ms ← indexed? key (if node.isObject then node else .null)
    let child ← walk? f keys ((Members.get? key ms).getD .null)
    some (.object (Members.insert key child ms))

/-- A node that is overwritten if need be can be indexed. -/
theorem indexed?_eq (key : String) (node : Value) :
    indexed? key (if node.isObject then node else .null) =
      some (if (Members.get? key node.members).isSome then node.members
        else Members.insert key .null node.members) := by
  cases node <;> rfl

/-- The walk arrives, and it makes the alteration. -/
theorem walk?_eq (f : Value → Value) (keys : List String) (node : Value) :
    walk? f keys node = some (alter f keys node) := by
  induction keys generalizing node with
  | nil => rfl
  | cons key keys ih =>
    rw [walk?, indexed?_eq, alter]
    cases found : Members.get? key node.members with
    | some child => simp [found, ih]
    | none => simp [ih]

end Tree

namespace Memory

open CodeGate.Store.Tree

variable {path : String} {value : Value}

/-- **Reading back.** Setting a value that is not null succeeds at every path with a segment, as does an update,
and no node on the way fails to be indexed. Afterwards the value is found at the path; behind the path what
is found is what the value holds there; at paths apart from it, what was found before. Each node on the
way is an object that kept its other members if it was one, and else has the next segment alone. Paths
with the same segments do the same. -/
theorem get_after_set (rooted : segments path ≠ []) (filled : value ≠ .null) (tree : Tree) :
    ∃ after, set path value tree = .ok after ∧
      walk? (fun _ => value) (segments path) tree = some after ∧
      (∀ fields, ∃ updated, update path fields tree = .ok updated ∧
        walk? (fun node => .object (mergeMembers fields node.members)) (segments path) tree = some updated) ∧
      get? path after = some value ∧
      (∀ longer more, segments longer = segments path ++ more → get? longer after = Tree.get? more value) ∧
      (∀ other, Apart (segments path) (segments other) → get? other after = get? other tree) ∧
      (∀ front key keys, segments path = front ++ key :: keys →
        ∃ ms, follow front after = some (.object ms) ∧ OnTheWay key (follow front tree) ms) ∧
      ∀ same, segments same = segments path →
        (∀ v t, set same v t = set path v t) ∧ (∀ fields t, update same fields t = update path fields t) ∧
          ∀ t, get? same t = get? path t := by
  have altered : Tree.set (segments path) value tree = alter (fun _ => value) (segments path) tree :=
    if_neg filled
  refine ⟨Tree.set (segments path) value tree, if_neg rooted, ?_, ?_, ?_, ?_, ?_, ?_, ?_⟩
  · rw [walk?_eq, altered]
  · intro fields
    exact ⟨Tree.update (segments path) fields tree, if_neg rooted, walk?_eq _ _ _⟩
  · rw [get?, get?_set_self rooted, reading, if_neg filled]
  · intro longer more behind
    rw [get?, behind, get?_set_behind filled]
  · intro other apart
    exact get?_set_of_apart apart value tree
  · intro front key keys way
    rw [altered, way]
    exact follow_alter_front _ front key keys tree
  · intro same equal
    have rootedToo : segments same ≠ [] := equal ▸ rooted
    refine ⟨fun v t => ?_, fun fields t => ?_, fun t => ?_⟩
    · rw [set, set, if_neg rooted, if_neg rootedToo, equal]
    · rw [update, update, if_neg rooted, if_neg rootedToo, equal]
    · rw [get?, get?, equal]

/-- A value set below a scalar and beside another record. -/
theorem step_behind_a_scalar :
    let tree : Tree := .object [("progress", .object [("u1", .number (.integer 1)), ("u2", .bool true)])]
    let value : Value := .object [("sub", .string "x"), ("todo", .null)]
    segments "progress//u1/step" ≠ [] ∧ value ≠ .null ∧
      ∃ after, set "progress//u1/step" value tree = .ok after ∧
        get? "progress/u1/step" after = some value ∧
        get? "progress/u1/step/sub" after = some (.string "x") ∧
        get? "progress/u1/step/todo" after = none ∧
        get? "progress/u2" after = some (.bool true) ∧
        ∃ child, follow ["progress", "u1"] after = some (.object [("step", child)]) := by
  intro tree value
  have rooted : segments "progress//u1/step" ≠ [] := by decide
  have filled : value ≠ .null := by decide
  obtain ⟨after, done, -, -, -, behind, apart, onTheWay, -⟩ := get_after_set rooted filled tree
  refine ⟨rooted, filled, after, done, ?_, ?_, ?_, ?_, ?_⟩
  · exact behind "progress/u1/step" [] (by decide)
  · exact behind "progress/u1/step/sub" ["sub"] (by decide)
  · exact behind "progress/u1/step/todo" ["todo"] (by decide)
  · exact apart "progress/u2" (by decide)
  · obtain ⟨ms, found, left⟩ := onTheWay ["progress", "u1"] "step" [] (by decide)
    have scalar : follow ["progress", "u1"] tree = some (.number (.integer 1)) := by decide
    obtain ⟨child, rfl⟩ := left.alone (by simp [scalar])
    exact ⟨child, found⟩

end Memory

end CodeGate.Store
