import CodeGate.GraphQL.Document
import CodeGate.Word

/-!
# The schema

The types that can be selected from, and the values that a type of a variable or an argument takes. A
query reads a user's progress, and a mutation runs one of the operations.

Follows `build_schema`, `QueryRoot`, `MutationRoot` and `ExecutionResultObject`; sections 6 and 11 of the
specification. The fields by which a schema is asked about itself are left out, except for the name of a type.
-/

namespace CodeGate.GraphQL

namespace TypeRef

/-- The type of texts. -/
def text : TypeRef := .required (.named "String")

/-- The type of conditions. -/
def condition : TypeRef := .required (.named "Boolean")

/-- The name of the type inside all lists. -/
def base : TypeRef → String
  | named name => name
  | list item => base item
  | required type => base type

/-- Whether a value has to be given. -/
def isRequired : TypeRef → Bool
  | required _ => true
  | _ => false

/-- The names of the types that a variable may have. -/
def scalars : List String := ["String", "Int", "Float", "Boolean", "ID"]

/-- Whether a value that is not null belongs to a scalar type. -/
def scalarAccepts (name : String) : Literal → Bool
  | .string _ => name = "String" || name = "ID"
  | .boolean _ => name = "Boolean"
  | .number (.integer n) => name = "Float" || ((name = "Int" || name = "ID") && Word.fitsSigned n)
  | .number (.float _) => name = "Float"
  | _ => false

/-- Whether a value without variables belongs to a type. A value that is no list stands for the list of
itself. -/
def accepts : TypeRef → Literal → Bool
  | required _, .null => false
  | required type, v => accepts type v
  | list _, .null => true
  | list item, .list vs => vs.all (accepts item)
  | list item, v => accepts item v
  | named _, .null => true
  | named name, v => scalarAccepts name v

end TypeRef

/-- The types with fields. -/
inductive ObjectType where
  | query
  | mutation
  | executionResult
  deriving DecidableEq, Repr

/-- A field of a type: its name, what it has to be given, and the type to select from in its value, if
there is one. -/
structure FieldType where
  name : String
  arguments : List (String × TypeRef)
  object : Option ObjectType
  deriving DecidableEq, Repr

namespace ObjectType

/-- The name of a type. -/
def name : ObjectType → String
  | query => "QueryRoot"
  | mutation => "MutationRoot"
  | executionResult => "ExecutionResultType"

/-- The type with a name. -/
def ofName? (name : String) : Option ObjectType :=
  [query, mutation, executionResult].find? (·.name = name)

/-- The fields of a type. -/
def fields : ObjectType → List FieldType
  | query => [⟨"userProgress", [], none⟩]
  | mutation => [
      ⟨"executeCode", [("code", .text), ("lang", .text)], some executionResult⟩,
      ⟨"explainCode", [("code", .text)], none⟩,
      ⟨"linkGithub", [("token", .text)], none⟩,
      ⟨"saveProgress", [("data", .text)], none⟩]
  | executionResult => [⟨"trace", [], none⟩, ⟨"variables", [], none⟩]

/-- The field of a type with a name. -/
def field? (type : ObjectType) (name : String) : Option FieldType :=
  type.fields.find? (·.name = name)

/-- The type that an operation selects from; nothing can be subscribed to. -/
def ofKind? : OperationKind → Option ObjectType
  | .query => some query
  | .mutation => some mutation
  | .subscription => none

end ObjectType

/-- The field that every type has: the type's name. -/
def typeNameField : String := "__typename"

/-- The directive that leaves out what it stands at if its condition holds. -/
def skipDirective : String := "skip"

/-- The directive that leaves out what it stands at unless its condition holds. -/
def includeDirective : String := "include"

/-- What both directives have to be given. -/
def directiveArguments : List (String × TypeRef) := [("if", .condition)]

end CodeGate.GraphQL
