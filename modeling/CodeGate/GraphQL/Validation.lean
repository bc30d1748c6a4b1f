import CodeGate.GraphQL.Parser
import CodeGate.GraphQL.Schema

/-!
# Documents that fit the schema

Nothing is run unless the whole document fits: every field exists and is given what it has to be given,
every fragment is used and meant for the type it is used on, every variable is declared and used, and
fields with one key in the response are the same field. The name of a type may be asked for anywhere,
and what is written with that field is not looked at.

Follows the rules by which `async-graphql` refuses documents.
-/

namespace CodeGate.GraphQL

/-- The values of variables that come with a request. -/
abbrev Given := Json.Members

/-- The value that a request gives to a variable. -/
def Given.value? (given : Given) (name : String) : Option Literal :=
  (Json.Members.get? name given).map Literal.ofValue

/-- The greatest number of selection sets inside the one of an operation, one inside another. -/
def maxNesting : Nat := 32

/-- Whether selections, with the fragments they spread, are nested less than `n` deep. -/
def nestedWithin (d : Document) : (n : Nat) → List Selection → Bool
  | 0, _ => false
  | n + 1, selections => selections.all fun
    | .field _ inner => inner.isEmpty || nestedWithin d n inner
    | .inline _ _ inner => nestedWithin d n inner
    | .spread name _ =>
      match d.fragment? name with
      | some f => nestedWithin d n f.selections
      | none => true

/-- Whether arguments are those declared: each known and given once, none missing that is required, and
every value of the declared type. A value with a variable that the request does not give is not known
yet. -/
def argumentsFit (given : Given) (declared : List (String × TypeRef)) (args : List Argument) : Bool :=
  let valueFits (a : Argument) : Bool :=
    match declared.lookup a.1 with
    | none => false
    | some type =>
      match a.2.resolve? given.value? with
      | none => true
      | some v => type.accepts v
  distinct (args.map Prod.fst) && args.all valueFits &&
    declared.all fun a => !a.2.isRequired || (args.lookup a.1).isSome

/-- Whether directives are known, used once and given their condition. -/
def directivesFit (given : Given) (ds : List Directive) : Bool :=
  distinct (ds.map (·.name)) &&
    ds.all fun d =>
      (d.name = skipDirective || d.name = includeDirective) && argumentsFit given directiveArguments d.arguments

mutual

/-- Whether a selection can be made from a type. -/
def selectionFits (d : Document) (given : Given) (type : ObjectType) : Selection → Bool
  | .field info inner =>
    if info.name = typeNameField then true
    else
      match type.field? info.name with
      | none => false
      | some f =>
        argumentsFit given f.arguments info.arguments && directivesFit given info.directives &&
          match f.object with
          | none => inner.isEmpty
          | some object => !inner.isEmpty && selectionsFit d given object inner
  | .spread name ds =>
    directivesFit given ds &&
      match d.fragment? name with
      | none => false
      | some f => f.condition = type.name
  | .inline condition ds inner =>
    directivesFit given ds && (condition.all fun name => name = type.name) && selectionsFit d given type inner

/-- Whether all selections can be made from a type. -/
def selectionsFit (d : Document) (given : Given) (type : ObjectType) : List Selection → Bool
  | [] => true
  | s :: ss => selectionFits d given type s && selectionsFit d given type ss

end

/-- The fields of a selection set and of the fragments in it, each with the type that it is written for
if one is written; `seen` are the fragments that have been looked into. -/
def outputs (d : Document) : (n : Nat) → (on : Option String) → (seen : List String) → List Selection →
    List (Option String × Field) × List String
  | 0, _, seen, _ => ([], seen)
  | n + 1, on, seen, selections =>
    selections.foldl (fun (fields, seen) s =>
      match s with
      | .field info _ => (fields ++ [(on, info)], seen)
      | .inline condition _ inner =>
        let (more, seen) := outputs d n condition seen inner
        (fields ++ more, seen)
      | .spread name _ =>
        match d.fragment? name with
        | none => (fields, seen)
        | some f =>
          if seen.contains name then (fields, seen)
          else
            let (more, seen) := outputs d n (some f.condition) (name :: seen) f.selections
            (fields ++ more, seen)) ([], seen)

/-- Whether two fields are the same field with the same arguments. -/
def sameField (a b : Field) : Bool :=
  a.name = b.name && a.arguments.length = b.arguments.length &&
    a.arguments.all fun x => (b.arguments.lookup x.1).any x.2.beq

/-- Whether fields with the same key, written for the same type, are the same field. -/
def agree : List (Option String × Field) → Bool
  | [] => true
  | (on, f) :: rest =>
    (rest.all fun g => !(g.1 = on && g.2.key = f.key) || sameField f g.2) && agree rest

/-- Whether the fields of one selection set can be merged. -/
def setMerges (d : Document) (selections : List Selection) : Bool :=
  agree (outputs d (maxNesting + 1) none [] selections).1

mutual

/-- Whether the fields of each selection set inside a selection can be merged. -/
def selectionMerges (d : Document) : Selection → Bool
  | .field info inner => info.name = typeNameField || (setMerges d inner && selectionsMerge d inner)
  | .inline _ _ inner => setMerges d inner && selectionsMerge d inner
  | .spread _ _ => true

/-- Whether the fields of each selection set inside some selections can be merged. -/
def selectionsMerge (d : Document) : List Selection → Bool
  | [] => true
  | s :: ss => selectionMerges d s && selectionsMerge d ss

end

/-- The variables in arguments. -/
def argumentVariables (args : List Argument) : List String :=
  args.flatMap fun a => a.2.variableNames

/-- The variables in directives. -/
def directiveVariables (ds : List Directive) : List String :=
  ds.flatMap fun d => argumentVariables d.arguments

mutual

/-- The variables in a selection. -/
def selectionVariables : Selection → List String
  | .field info inner =>
    if info.name = typeNameField then []
    else argumentVariables info.arguments ++ directiveVariables info.directives ++ selectionsVariables inner
  | .spread _ ds => directiveVariables ds
  | .inline _ ds inner => directiveVariables ds ++ selectionsVariables inner

/-- The variables in selections. -/
def selectionsVariables : List Selection → List String
  | [] => []
  | s :: ss => selectionVariables s ++ selectionsVariables ss

end

mutual

/-- The fragments that a selection spreads. -/
def selectionSpreads : Selection → List String
  | .field info inner => if info.name = typeNameField then [] else selectionsSpreads inner
  | .spread name _ => [name]
  | .inline _ _ inner => selectionsSpreads inner

/-- The fragments that selections spread. -/
def selectionsSpreads : List Selection → List String
  | [] => []
  | s :: ss => selectionSpreads s ++ selectionsSpreads ss

end

/-- The fragments that are reached from those given in at most so many steps. -/
def reachable (d : Document) : (steps : Nat) → List String → List String
  | 0, names => names
  | steps + 1, names =>
    let next := names.flatMap fun name =>
      match d.fragment? name with
      | some f => selectionsSpreads f.selections
      | none => []
    reachable d steps (names ++ next).eraseDups

/-- The fragments that an operation uses. -/
def Operation.fragments (o : Operation) (d : Document) : List String :=
  reachable d d.fragments.length (selectionsSpreads o.selections).eraseDups

/-- The variables that an operation uses, also in fragments. -/
def Operation.usedVariables (o : Operation) (d : Document) : List String :=
  selectionsVariables o.selections ++ (o.fragments d).flatMap fun name =>
    match d.fragment? name with
    | some f => selectionsVariables f.selections
    | none => []

/-- Whether a declaration is sound: its type is known, and its default belongs to it. Its directives
are not looked at. -/
def VariableDef.fits (v : VariableDef) : Bool :=
  TypeRef.scalars.contains v.type.base && v.default.all v.type.accepts

/-- Whether an operation fits the schema. -/
def Operation.fits (o : Operation) (d : Document) (given : Given) : Bool :=
  let declared := o.declared.map (·.name)
  let used := o.usedVariables d
  match ObjectType.ofKind? o.kind with
  | none => false
  | some type =>
    o.directives.isEmpty && o.declared.all (·.fits) && distinct declared &&
      used.all declared.contains && declared.all used.contains &&
      selectionsFit d given type o.selections && setMerges d o.selections && selectionsMerge d o.selections

/-- Whether a fragment fits the schema. -/
def Fragment.fits (f : Fragment) (d : Document) (given : Given) : Bool :=
  match ObjectType.ofName? f.condition with
  | none => false
  | some type =>
    f.directives.isEmpty && selectionsFit d given type f.selections &&
      setMerges d f.selections && selectionsMerge d f.selections

/-- The values that count for an operation: those given, if it is the one that is asked for. -/
def Operation.givenTo (o : Operation) (asked : Option String) (given : Given) : Given :=
  if asked.all fun name => o.name = some name then given else []

/-- Whether a document fits the schema, given the name of the operation that is asked for and the values
that come with the request. -/
def Document.fits (d : Document) (asked : Option String) (given : Given) : Bool :=
  (d.operations.all fun o => nestedWithin d (maxNesting + 1) o.selections) &&
    (d.operations.all fun o => o.fits d (o.givenTo asked given)) &&
    (d.fragments.all fun f => f.fits d given && d.operations.any fun o => (o.fragments d).contains f.name)

end CodeGate.GraphQL
