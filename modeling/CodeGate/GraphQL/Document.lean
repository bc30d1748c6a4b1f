import CodeGate.GraphQL.Source
import CodeGate.Json.Reader

/-!
# GraphQL documents

A document holds operations and fragments. Both select fields; a field may have arguments, directives
and selections of its own.

Follows the documents that `async-graphql` reads.
-/

namespace CodeGate.GraphQL

/-- A value as it is written in a document. An object has its members in ascending order of their
names, one member a name. -/
inductive Literal where
  | variable (name : String)
  | number (value : Json.Number)
  | string (text : String)
  | boolean (value : Bool)
  | null
  | enumeration (name : String)
  | list (items : List Literal)
  | object (members : List (String × Literal))
  deriving Repr, Inhabited

/-- A type as it is written for a variable. -/
inductive TypeRef where
  | named (name : String)
  | list (item : TypeRef)
  | required (type : TypeRef)
  deriving DecidableEq, Repr

/-- A named value that is given to a field or a directive. -/
abbrev Argument := String × Literal

/-- A directive. -/
structure Directive where
  name : String
  arguments : List Argument
  deriving Repr

/-- A field without its selections; its place is that of its first token. -/
structure Field where
  position : Position
  label : Option String
  name : String
  arguments : List Argument
  directives : List Directive
  deriving Repr

/-- The key of a field in the response. -/
def Field.key (f : Field) : String := f.label.getD f.name

/-- Something that is selected: a field, the selections of a fragment, or selections that may be meant
for one type. -/
inductive Selection where
  | field (info : Field) (selections : List Selection)
  | spread (name : String) (directives : List Directive)
  | inline (condition : Option String) (directives : List Directive) (selections : List Selection)
  deriving Repr

/-- What an operation may do. -/
inductive OperationKind where
  | query
  | mutation
  | subscription
  deriving DecidableEq, Repr

/-- A variable that an operation declares. -/
structure VariableDef where
  name : String
  type : TypeRef
  default : Option Literal
  directives : List Directive
  deriving Repr

/-- An operation. -/
structure Operation where
  kind : OperationKind
  name : Option String
  declared : List VariableDef
  directives : List Directive
  selections : List Selection
  deriving Repr

/-- A fragment: selections for one type. -/
structure Fragment where
  name : String
  condition : String
  directives : List Directive
  selections : List Selection
  deriving Repr

/-- A document. -/
structure Document where
  operations : List Operation
  fragments : List Fragment
  deriving Repr

/-- The fragment with a name. -/
def Document.fragment? (d : Document) (name : String) : Option Fragment :=
  d.fragments.find? (·.name = name)

namespace Literal

/-- The members with the value under the name: it replaces the member there, or goes in front of the
first member with a greater name. -/
def insertMember (name : String) (value : Literal) : List (String × Literal) → List (String × Literal)
  | [] => [(name, value)]
  | (k, v) :: rest =>
    if k < name then (k, v) :: insertMember name value rest
    else if k = name then (name, value) :: rest
    else (name, value) :: (k, v) :: rest

/-- The object of some members in their order; of those with one name the last counts. -/
def ofPairs (pairs : List (String × Literal)) : Literal :=
  object (pairs.foldl (fun ms m => insertMember m.1 m.2 ms) [])

/-- Two numbers are equal if both are integers or neither is, and they have one value. Zero is equal to
its negative. -/
def sameNumber : Json.Number → Json.Number → Bool
  | .integer m, .integer n => m == n
  | .float x, .float y => x == y || x.isZero && y.isZero
  | _, _ => false

mutual

/-- Two literals are equal if they have the same form and equal parts. -/
def beq : Literal → Literal → Bool
  | .variable a, .variable b => a == b
  | number a, number b => sameNumber a b
  | string a, string b => a == b
  | boolean a, boolean b => a == b
  | null, null => true
  | enumeration a, enumeration b => a == b
  | list as, list bs => beqItems as bs
  | object as, object bs => beqMembers as bs
  | _, _ => false

/-- Equality of lists of literals, item by item. -/
def beqItems : List Literal → List Literal → Bool
  | [], [] => true
  | a :: as, b :: bs => beq a b && beqItems as bs
  | _, _ => false

/-- Equality of rows of members, member by member. -/
def beqMembers : List (String × Literal) → List (String × Literal) → Bool
  | [], [] => true
  | (k, a) :: as, (l, b) :: bs => k == l && beq a b && beqMembers as bs
  | _, _ => false

end

mutual

/-- The literal for a value that comes with a request. -/
def ofValue : Json.Value → Literal
  | .null => null
  | .bool b => boolean b
  | .number n => number n
  | .string s => string s
  | .list items => list (ofItems items)
  | .object ms => object (ofMembers ms)

/-- The literals for the items of a list. -/
def ofItems : List Json.Value → List Literal
  | [] => []
  | v :: vs => ofValue v :: ofItems vs

/-- The literals for the members of an object. -/
def ofMembers : List (String × Json.Value) → List (String × Literal)
  | [] => []
  | (k, v) :: ms => (k, ofValue v) :: ofMembers ms

end

mutual

/-- The literal with every variable replaced by what it stands for; none if one of them stands for
nothing. -/
def resolve? (lookup : String → Option Literal) : Literal → Option Literal
  | .variable name => lookup name
  | list items => (resolveItems? lookup items).map list
  | object ms => (resolveMembers? lookup ms).map object
  | literal => some literal

/-- The items of a list with their variables replaced. -/
def resolveItems? (lookup : String → Option Literal) : List Literal → Option (List Literal)
  | [] => some []
  | v :: vs => do
    let v ← resolve? lookup v
    let vs ← resolveItems? lookup vs
    some (v :: vs)

/-- The members of an object with their variables replaced. -/
def resolveMembers? (lookup : String → Option Literal) :
    List (String × Literal) → Option (List (String × Literal))
  | [] => some []
  | (k, v) :: ms => do
    let v ← resolve? lookup v
    let ms ← resolveMembers? lookup ms
    some ((k, v) :: ms)

end

mutual

/-- The variables in a literal. -/
def variableNames : Literal → List String
  | .variable name => [name]
  | list items => variableNamesItems items
  | object ms => variableNamesMembers ms
  | _ => []

/-- The variables in the items of a list. -/
def variableNamesItems : List Literal → List String
  | [] => []
  | v :: vs => variableNames v ++ variableNamesItems vs

/-- The variables in the members of an object. -/
def variableNamesMembers : List (String × Literal) → List String
  | [] => []
  | (_, v) :: ms => variableNames v ++ variableNamesMembers ms

end

end Literal

end CodeGate.GraphQL
