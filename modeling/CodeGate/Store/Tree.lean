import CodeGate.Json.Value

/-!
# A document as a tree

The whole database is one JSON value, and a row of keys leads from its root to a node. A write makes
way for itself: what is no object on the way becomes one. Removing makes no way: it stops where the way
ends.

Follows `update`, `set` and `get` of `EphemeralStore` and the walk `node_mut`; section 11 of the
specification.
-/

namespace CodeGate.Store

open CodeGate.Json

/-- The document of a database. -/
abbrev Tree := Value

namespace Tree

/-- The document without any entry. -/
def empty : Tree := Value.empty

/-- The node that a row of keys leads to through objects. -/
def follow : List String → Tree → Option Value
  | [], node => some node
  | key :: keys, .object ms =>
    match Members.get? key ms with
    | some child => follow keys child
    | none => none
  | _ :: _, _ => none

/-- What is stored at a place: a null counts as nothing. -/
def get? (keys : List String) (tree : Tree) : Option Value :=
  match follow keys tree with
  | some .null => none
  | found => found

/-- The tree with the node at a place changed. Nodes on the way that are no objects become objects
with the next key as their only one, and a missing node is taken as null. -/
def alter (change : Value → Value) : List String → Tree → Tree
  | [], node => change node
  | key :: keys, node =>
    let ms := node.members
    .object (Members.insert key (alter change keys ((Members.get? key ms).getD .null)) ms)

/-- The members with those of another object put over them: a null removes, any other value replaces. -/
def mergeMembers (fields : Members) (ms : Members) : Members :=
  fields.foldl (fun ms f => if f.2 = .null then Members.erase f.1 ms else Members.insert f.1 f.2 ms) ms

/-- The tree with fields merged into the object at a place. -/
def update (keys : List String) (fields : Members) : Tree → Tree :=
  alter (fun node => .object (mergeMembers fields node.members)) keys

/-- The members with the value at a key changed, if there is one. -/
def changeMember (change : Value → Value) (key : String) (ms : Members) : Members :=
  ms.map fun m => if m.1 = key then (m.1, change m.2) else m

/-- The tree without the node at a place. -/
def remove : List String → Tree → Tree
  | [], tree => tree
  | [key], .object ms => .object (Members.erase key ms)
  | key :: keys, .object ms => .object (changeMember (remove keys) key ms)
  | _ :: _, node => node

/-- The tree with a value at a place; null removes what is there. -/
def set (keys : List String) (value : Value) (tree : Tree) : Tree :=
  if value = .null then remove keys tree else alter (fun _ => value) keys tree

end Tree

end CodeGate.Store
