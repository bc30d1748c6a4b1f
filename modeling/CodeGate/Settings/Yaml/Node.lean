import CodeGate.Settings.Number
import CodeGate.Settings.Yaml.Token

/-!
# The values in a document

The tokens of a document are read into its values. A value may have a tag, which says of which type it
is, and an anchor, by which it can be referred to behind it. What has no tag and no quotes has the type
that it looks like.

Follows YAML files as sources of `config`.
-/

namespace CodeGate.Settings.Yaml

/-- A value. One that is `unreadable` is a number in a form that settings do not know; one that is
`unusable` is not of the type that its tag says. -/
inductive Node where
  | scalar (value : Scalar)
  | unreadable
  | unusable
  | sequence (items : List Node)
  | mapping (members : List (Node × Node))
  deriving Repr, Inhabited

/-- What a tag says about a type. -/
inductive TypeName where
  | absent
  | standard (name : String)
  | other
  deriving DecidableEq, Repr

/-- The front of the names of the standard types. -/
def standardFront : String := "tag:yaml.org,2002:"

/-- Whether a text is a number that is infinite or none. -/
def isSpecialNumber (text : String) : Bool :=
  [".inf", ".Inf", ".INF", "+.inf", "+.Inf", "+.INF", "-.inf", "-.Inf", "-.INF", ".nan", ".NAN"].contains text

/-- The number that a text looks like, if it does. -/
def number? (text : String) : Option Node :=
  if isSpecialNumber text then some .unreadable
  else (fractional? text.toList).map fun x => .scalar (.float x)

/-- The integer that a text announces by its first characters. -/
def announced? : List Char → Option Int
  | '0' :: 'x' :: cs => signedIn? 16 cs
  | '0' :: 'o' :: cs => signedIn? 8 cs
  | '+' :: cs => signed64? cs
  | _ => none

/-- The null, the truth value or the number that a text looks like; else it is a text. -/
def plainNode (text : String) : Node :=
  match announced? text.toList with
  | some n => .scalar (.integer n)
  | none =>
    if text = "" ∨ text = "~" ∨ text = "null" then .scalar .null
    else if text = "true" then .scalar (.bool true)
    else if text = "false" then .scalar (.bool false)
    else
      match signed64? text.toList with
      | some n => .scalar (.integer n)
      | none => (number? text).getD (.scalar (.text text))

/-- The value of a text without quotes that has a standard type. -/
def standardNode (name text : String) : Node :=
  if name = "bool" then
    if text = "true" then .scalar (.bool true)
    else if text = "false" then .scalar (.bool false)
    else .unusable
  else if name = "int" then
    match signed64? text.toList with
    | some n => .scalar (.integer n)
    | none => .unusable
  else if name = "float" then (number? text).getD .unusable
  else if name = "null" then if text = "~" ∨ text = "null" then .scalar .null else .unusable
  else .scalar (.text text)

/-- The value of a text. What is between quotes or in a block is a text whatever its tag. -/
def scalarNode (type : TypeName) (isPlain : Bool) (text : String) : Node :=
  if !isPlain then .scalar (.text text)
  else
    match type with
    | .absent => plainNode text
    | .standard name => standardNode name text
    | .other => .scalar (.text text)

/-- The members of a mapping from its keys and values in turn. A key that is unusable is passed over, and
what would be its value is the next key. -/
def pairs : List Node → List (Node × Node)
  | [] => []
  | .unusable :: nodes => pairs nodes
  | key :: value :: nodes => (key, value) :: pairs nodes
  | [_] => []

/-- The key that a value is; only texts and integers are keys. -/
def keyText? : Node → Option String
  | .scalar (.text s) => some s
  | .scalar (.integer n) => some (toString n)
  | _ => none

/-- Whether two values are the same key. -/
def sameKey : Node → Node → Bool
  | .scalar a, .scalar b => a = b
  | _, _ => false

/-- Whether the keys of members are different. -/
def keysDiffer : List (Node × Node) → Bool
  | [] => true
  | m :: ms => !(ms.any fun other => sameKey m.1 other.1) && keysDiffer ms

/-- What is left to read, and what has been declared: the fronts of tags, the number of the value that an
anchor stands for, and the values by their numbers. -/
structure Progress where
  tokens : List Token
  handles : List (String × String) := []
  anchors : List (String × Nat) := []
  values : List (Nat × Node) := []
  count : Nat := 0

/-- Reads something from tokens. -/
abbrev Read := StateT Progress Option

/-- The next token. -/
def peek : Read (Option Token) := do return (← get).tokens.head?

/-- Passes over the next token. -/
def skip : Read Unit := modify fun p => { p with tokens := p.tokens.drop 1 }

/-- Whether the next token is one of those given. -/
def isNext (tokens : List Token) : Read Bool := do
  return (← peek).any tokens.contains

/-- Refuses the tokens. -/
def refuse {α : Type} : Read α := failure

/-- Passes over a token that has to come next. -/
def expect (token : Token) : Read Unit := do
  if ← isNext [token] then skip else refuse

/-- The type that a tag names. A handle that is no word has to be declared. -/
def typeOf (tag : Tag) : Read TypeName := do
  let declared := (← get).handles.lookup tag.handle
  let front ←
    match declared with
    | some front => pure front
    | none =>
      if tag.handle = "!!" then pure standardFront
      else if isFullHandle tag.handle.toList then refuse
      else pure tag.handle
  return if front = standardFront then .standard tag.suffix else .other

/-- Takes up an anchor and gives the number of its value. -/
def register (name : String) : Read Nat := do
  let p ← get
  set { p with anchors := (name, p.count) :: p.anchors, count := p.count + 1 }
  return p.count

/-- Reads a tag, if there is one. -/
def typeHere : Read TypeName := do
  match ← peek with
  | some (.tag tag) =>
    skip
    typeOf tag
  | _ => return .absent

/-- Reads an anchor, if there is one. -/
def anchorHere : Read (Option Nat) := do
  match ← peek with
  | some (.anchor name) =>
    skip
    return some (← register name)
  | _ => return none

/-- Reads what stands in front of a value: a tag and an anchor in either order. -/
def properties : Read (TypeName × Option Nat) := do
  match ← anchorHere with
  | some number => return (← typeHere, some number)
  | none =>
    let type ← typeHere
    if type = .absent then return (type, none) else return (type, ← anchorHere)

/-- The value that a reference stands for. Inside of the value itself it is unusable. -/
def referred (name : String) : Read Node := do
  let p ← get
  match p.anchors.lookup name with
  | none => refuse
  | some number => return (p.values.lookup number).getD .unusable

/-- A value that is not written. -/
def nothing : Node := .scalar .null

/-- A mapping of keys and values in turn, the last one first; no key may be there twice. -/
def mappingOf (done : List Node) : Read Node :=
  let members := pairs done.reverse
  if keysDiffer members then return .mapping members else refuse

mutual

/-- Reads a value. Only in a `block` are there collections without brackets; where it is `indentless`, the
items of a sequence may stand at the column of the key in front of them. -/
def node : (n : Nat) → (block indentless : Bool) → Read Node
  | 0, _, _ => refuse
  | n + 1, block, indentless => do
    match ← peek with
    | some (.reference name) =>
      skip
      referred name
    | _ =>
      let (type, anchor) ← properties
      let value ← content n type (type ≠ .absent || anchor.isSome) block indentless
      match anchor with
      | some number => modify fun p => { p with values := (number, value) :: p.values }
      | none => pure ()
      return value

/-- Reads a value behind what stands in front of it. If something does, the value may be missing. -/
def content : (n : Nat) → (type : TypeName) → (mayMiss block indentless : Bool) → Read Node
  | 0, _, _, _, _ => refuse
  | n + 1, type, mayMiss, block, indentless => do
    match ← peek with
    | some (.scalar isPlain text) =>
      skip
      return scalarNode type isPlain text
    | some .flowSequence =>
      skip
      flowItems n true []
    | some .flowMapping =>
      skip
      flowMembers n true []
    | some token =>
      if token = .blockEntry && indentless then indentlessItems n []
      else if token = .blockSequence && block then
        skip
        blockItems n []
      else if token = .blockMapping && block then
        skip
        blockMembers n []
      else if mayMiss then return scalarNode type true ""
      else refuse
    | none => if mayMiss then return scalarNode type true "" else refuse

/-- Reads the items of a sequence, each behind a dash. -/
def blockItems : (n : Nat) → (done : List Node) → Read Node
  | 0, _ => refuse
  | n + 1, done => do
    if ← isNext [.blockEnd] then
      skip
      return .sequence done.reverse
    else
      expect .blockEntry
      let item ← if ← isNext [.blockEntry, .blockEnd] then pure nothing else node n true false
      blockItems n (item :: done)

/-- Reads the items of a sequence that no token ends. -/
def indentlessItems : (n : Nat) → (done : List Node) → Read Node
  | 0, _ => refuse
  | n + 1, done => do
    if ← isNext [.blockEntry] then
      skip
      let item ←
        if ← isNext [.blockEntry, .key, .value, .blockEnd] then pure nothing else node n true false
      indentlessItems n (item :: done)
    else return .sequence done.reverse

/-- Reads the members of a mapping without brackets. -/
def blockMembers : (n : Nat) → (done : List Node) → Read Node
  | 0, _ => refuse
  | n + 1, done => do
    if ← isNext [.blockEnd] then
      skip
      mappingOf done
    else
      let key ←
        if ← isNext [.key] then
          skip
          if ← isNext [.key, .value, .blockEnd] then pure nothing else node n true true
        else if ← isNext [.value] then pure nothing
        else refuse
      let value ←
        if ← isNext [.value] then
          skip
          if ← isNext [.key, .value, .blockEnd] then pure nothing else node n true true
        else pure nothing
      blockMembers n (value :: key :: done)

/-- Reads the items between square brackets; a key with a value is a mapping of its own. -/
def flowItems : (n : Nat) → (first : Bool) → (done : List Node) → Read Node
  | 0, _, _ => refuse
  | n + 1, first, done => do
    if ← isNext [.flowSequenceEnd] then
      skip
      return .sequence done.reverse
    else
      if !first then expect .flowEntry
      if ← isNext [.flowSequenceEnd] then
        skip
        return .sequence done.reverse
      else
        let item ←
          if ← isNext [.key] then
            skip
            let key ←
              if ← isNext [.value, .flowEntry, .flowSequenceEnd] then pure nothing else node n false false
            let value ← flowValue n .flowSequenceEnd
            mappingOf [value, key]
          else if ← isNext [.value] then
            let value ← flowValue n .flowSequenceEnd
            mappingOf [value, nothing]
          else node n false false
        flowItems n false (item :: done)

/-- Reads the members between braces. -/
def flowMembers : (n : Nat) → (first : Bool) → (done : List Node) → Read Node
  | 0, _, _ => refuse
  | n + 1, first, done => do
    if ← isNext [.flowMappingEnd] then
      skip
      mappingOf done
    else
      if !first then expect .flowEntry
      if ← isNext [.flowMappingEnd] then
        skip
        mappingOf done
      else if ← isNext [.key] then
        skip
        let key ←
          if ← isNext [.value, .flowEntry, .flowMappingEnd] then pure nothing else node n false false
        let value ← flowValue n .flowMappingEnd
        flowMembers n false (value :: key :: done)
      else if ← isNext [.value] then
        let value ← flowValue n .flowMappingEnd
        flowMembers n false (value :: nothing :: done)
      else
        let key ← node n false false
        flowMembers n false (nothing :: key :: done)

/-- Reads the value of a member between brackets, which may be missing. -/
def flowValue : (n : Nat) → (close : Token) → Read Node
  | 0, _ => refuse
  | n + 1, close => do
    if ← isNext [.value] then
      skip
      if ← isNext [.flowEntry, close] then return nothing else node n false false
    else return nothing

end

/-- Reads the directives in front of a document. Of those on handles only the last counts, and a version
may be told once. -/
def directives : (n : Nat) → (sawVersion : Bool) → Read Unit
  | 0, _ => refuse
  | n + 1, sawVersion => do
    match ← peek with
    | some (.directive .version) =>
      if sawVersion then refuse
      else
        skip
        modify fun p => { p with handles := [] }
        directives n true
    | some (.directive (.handle handle front)) =>
      skip
      modify fun p => { p with handles := [(handle, front)] }
      directives n sawVersion
    | _ => return ()

/-- Whether a token ends a document, or is in front of one. -/
def Token.isOutside : Token → Bool
  | directive _ | documentStart | documentEnd => true
  | _ => false

/-- Reads the documents. One without a mark in front may stand at the start of the text, and behind a mark
that ends a document. -/
def documents : (n : Nat) → (implicit : Bool) → (done : List Node) → Read (List Node)
  | 0, _, _ => refuse
  | n + 1, implicit, done => do
    match ← peek with
    | none => return done.reverse
    | some token =>
      if token = .documentEnd then
        skip
        documents n implicit done
      else
        let value ←
          if implicit && !token.isOutside then node n true false
          else
            directives n false
            expect .documentStart
            if (← peek).all Token.isOutside then pure nothing else node n true false
        let ends ← isNext [.documentEnd]
        modify fun p => { p with handles := [], anchors := [] }
        if ends then skip
        match ← peek with
        | some (.directive _) => if ends then documents n true (value :: done) else refuse
        | _ => documents n ends (value :: done)

/-- The documents of a text, if it is well formed. -/
def documents? (text : String) : Option (List Node) := do
  let tokens ← tokens? text
  let (nodes, _) ← (documents (4 * tokens.length + 4) true []).run { tokens }
  some nodes

end CodeGate.Settings.Yaml
