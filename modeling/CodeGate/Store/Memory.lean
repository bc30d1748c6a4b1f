import CodeGate.Store.Interface
import CodeGate.Store.Path
import CodeGate.Store.Tree
import CodeGate.Text.Quoted

/-!
# The in-memory store

The document is held in memory. A write needs a place below the root; reading the root gives the whole
document.

Follows `EphemeralStore`; section 11 of the specification.
-/

namespace CodeGate.Store.Memory

open CodeGate.Json

/-- The refusal of a path that leads nowhere below the root. -/
structure InvalidPath where
  path : String
  deriving DecidableEq, Repr

/-- The refusal in words. -/
def InvalidPath.message (refusal : InvalidPath) : String :=
  "invalid path: " ++ Text.quoted refusal.path

/-- Merges fields into the object at a path. -/
def update (path : String) (fields : Members) (tree : Tree) : Except InvalidPath Tree :=
  if segments path = [] then .error ⟨path⟩ else .ok (tree.update (segments path) fields)

/-- Puts a value at a path; null removes. -/
def set (path : String) (value : Value) (tree : Tree) : Except InvalidPath Tree :=
  if segments path = [] then .error ⟨path⟩ else .ok (Tree.set (segments path) value tree)

/-- What is stored at a path. -/
def get? (path : String) (tree : Tree) : Option Value :=
  Tree.get? (segments path) tree

/-- Does a write. -/
def perform : Write → Tree → Except InvalidPath Tree
  | .update path fields, tree => update path fields tree
  | .set path value, tree => set path value tree

/-- The in-memory store: a refused write leaves the document as it was. -/
def interface : Interface Tree where
  write call tree :=
    match perform call tree with
    | .ok tree => { answer := .done, state := tree }
    | .error refusal => { answer := .refused refusal.message, state := tree }

end CodeGate.Store.Memory
