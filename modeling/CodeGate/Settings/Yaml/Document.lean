import CodeGate.Settings.Yaml.Node

/-!
# YAML files

A file holds one document at most.

Follows YAML files as sources of `config`.
-/

namespace CodeGate.Settings.Yaml

mutual

/-- What a value holds. One that is unusable is null. -/
def Node.content? : Node → Option Content
  | .scalar value => some (.scalar value)
  | .unreadable => none
  | .unusable => some (.scalar .null)
  | .sequence items => (contentItems? items).map .list
  | .mapping members => (contentMembers? members).map Content.ofPairs

/-- What the items of a sequence hold. -/
def contentItems? : List Node → Option (List Content)
  | [] => some []
  | node :: nodes => do
    let content ← node.content?
    let contents ← contentItems? nodes
    some (content :: contents)

/-- What the members of a mapping hold. -/
def contentMembers? : List (Node × Node) → Option (List (String × Content))
  | [] => some []
  | (key, value) :: members => do
    let key ← keyText? key
    let content ← value.content?
    let contents ← contentMembers? members
    some ((key, content) :: contents)

end

/-- The content of a file; a file without a document is an empty table. -/
def read? (text : String) : Option Content :=
  match documents? text with
  | some [] => some (.table [])
  | some [node] => node.content?
  | _ => none

end CodeGate.Settings.Yaml
