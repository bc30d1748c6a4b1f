import CodeGate.GraphQL.Scalar

/-!
# Reading a GraphQL document

A document is read by one reader for each kind of part. What may stand inside itself is read by
recursion on a bound for the number of characters left: a part is behind at least one character, so the
bound for what stands inside it is smaller by one.

Follows the documents that `async-graphql` reads.
-/

namespace CodeGate.GraphQL

/-- Reads one part from characters of a bounded number. -/
abbrev Within (n : Nat) (α : Type) : Type :=
  (ps : List Placed) → ps.length ≤ n → Option (Taken α ps.length)

/-- Reads parts up to a closing mark, behind the opening one; those read so far come in reverse. -/
def partsUntil {α : Type} {n : Nat} (close : Char) (part : Within n α) :
    (k : Nat) → List α → (ps : List Placed) → ps.length ≤ k → k ≤ n → Option (Taken (List α) (k + 1))
  | 0, _, _, _, _ => none
  | k + 1, done, ps, h, hk =>
    match takeMark close ps with
    | some t => some ⟨done.reverse, t.rest, by have := t.shorter; omega⟩
    | none =>
      match part ps (Nat.le_trans h hk) with
      | none => none
      | some p =>
        (partsUntil close part k (p.value :: done) p.rest (by have := p.shorter; omega) (by omega)).map
          (·.widen (by omega))

/-- Reads parts between two marks. -/
def between {α : Type} {n : Nat} (opening close : Char) (part : Within n α) : Within (n + 1) (List α) :=
  fun ps h =>
    match takeMark opening ps with
    | none => none
    | some ⟨_, rest, shorter⟩ =>
      (partsUntil close part rest.length [] rest (length_le_self rest) (length_le_of_lt shorter h)).map
        (·.widen shorter)

/-- Reads parts between two marks, or nothing if the first mark is not there. -/
def optionalBetween {α : Type} {n : Nat} (opening close : Char) (part : Within n α)
    (ps : List Placed) (h : ps.length ≤ n + 1) : Option (Passed (List α) ps.length) :=
  match takeMark opening ps with
  | none => some ⟨[], ps, Nat.le_refl _⟩
  | some _ => (between opening close part ps h).map (·.passed)

/-- Reads one or more parts between two marks. -/
def someBetween {α : Type} {n : Nat} (opening close : Char) (part : Within n α) : Within (n + 1) (List α) :=
  fun ps h => (between opening close part ps h).filter fun t => !t.value.isEmpty

/-- Reads one or more parts between two marks, or nothing if the first mark is not there. -/
def optionalSome {α : Type} {n : Nat} (opening close : Char) (part : Within n α)
    (ps : List Placed) (h : ps.length ≤ n + 1) : Option (Passed (List α) ps.length) :=
  match takeMark opening ps with
  | none => some ⟨[], ps, Nat.le_refl _⟩
  | some _ => (someBetween opening close part ps h).map (·.passed)

/-- Reads a name, a colon and a value. -/
def named {α : Type} {n : Nat} (value : Within n α) : Within n (String × α) := fun ps h => do
  let name ← takeName ps
  let colon ← takeMark ':' name.rest
  let v ← value colon.rest (by have := name.shorter; have := colon.shorter; omega)
  some ⟨(name.value, v.value), v.rest, by
    have := name.shorter; have := colon.shorter; have := v.shorter; omega⟩

/-- Reads a variable. -/
def takeVariable : Reads String := fun ps => do
  let sign ← takeMark '$' ps
  let name ← takeName sign.rest
  some ⟨name.value, name.rest, Nat.lt_trans name.shorter sign.shorter⟩

/-- Reads a literal that holds no others, a variable included unless it has to be `constant`. -/
def takeLeaf (constant : Bool) : Reads Literal := fun ps =>
  match takeVariable ps with
  | some t => if constant then none else some (t.map .variable)
  | none => takeScalar ps

/-- Reads a literal; where `constant` holds, no variable may stand in it. -/
def literal (constant : Bool) : (n : Nat) → Within n Literal
  | 0, _, _ => none
  | n + 1, ps, h =>
    match takeMark '[' ps with
    | some _ => (between '[' ']' (literal constant n) ps h).map (·.map .list)
    | none =>
      match takeMark '\x7b' ps with
      | some _ => (between '\x7b' '\x7d' (named (literal constant n)) ps h).map (·.map .ofPairs)
      | none => takeLeaf constant ps

/-- Reads the arguments of a field or a directive, if there are any. -/
def arguments (ps : List Placed) : Option (Passed (List Argument) ps.length) :=
  optionalSome '(' ')' (named (literal false ps.length)) ps (Nat.le_succ _)

/-- Reads directives, those read so far coming in reverse. -/
def directives : (k : Nat) → List Directive → (ps : List Placed) → ps.length ≤ k →
    Option (Passed (List Directive) k)
  | 0, done, ps, h => some ⟨done.reverse, ps, h⟩
  | k + 1, done, ps, h =>
    match takeMark '@' ps with
    | none => some ⟨done.reverse, ps, h⟩
    | some mark => do
      let name ← takeName mark.rest
      let args ← arguments name.rest
      let more ← directives k (⟨name.value, args.value⟩ :: done) args.rest (by
        have := mark.shorter; have := name.shorter; have := args.fits; omega)
      some ⟨more.value, more.rest, Nat.le_succ_of_le more.fits⟩

/-- Reads the directives at a place. -/
def directivesAt (ps : List Placed) : Option (Passed (List Directive) ps.length) :=
  directives ps.length [] ps (Nat.le_refl _)

/-- Reads the key and the name of a field: one name, or two with a colon between them. -/
def fieldName : Reads (Option String × String) := fun ps => do
  let first ← takeName ps
  match takeMark ':' first.rest with
  | none => some ⟨(none, first.value), first.rest, first.shorter⟩
  | some colon =>
    let second ← takeName colon.rest
    some ⟨(some first.value, second.value), second.rest, by
      have := first.shorter; have := colon.shorter; have := second.shorter; omega⟩

/-- The place of the first part. -/
def placeOf (ps : List Placed) : Position :=
  match skip ps with
  | [] => ⟨1, 1⟩
  | p :: _ => p.position

/-- Reads the type that selections are meant for: the word `on`, white space without comments, and a
name. -/
def condition : Reads String := fun ps => do
  let on ← takeWord 'o' ['n'] ps
  match h : on.rest with
  | [] => none
  | p :: r =>
    if isBlank p.char then
      (takeNameHere (r.dropWhile fun p => isBlank p.char)).map
        (·.widen (Nat.le_trans (length_dropWhile_le _ r) (rest_le_of_eq_cons h on.shorter)))
    else none

/-- Reads the type that selections are meant for, if it is there. -/
def optionalCondition (ps : List Placed) : Passed (Option String) ps.length :=
  match condition ps with
  | none => ⟨none, ps, Nat.le_refl _⟩
  | some t => ⟨some t.value, t.rest, Nat.le_of_lt t.shorter⟩

/-- Reads the points in front of a selection that is no field. -/
def takePoints : Reads Unit := takeWord '.' ['.', '.']

/-- Reads selections with what they are meant for in front, behind the points. -/
def inline {n : Nat} (selection : Within n Selection) : Within n Selection := fun ps h => do
  let on := optionalCondition ps
  let ds ← directivesAt on.rest
  let inner ← someBetween '\x7b' '\x7d' selection ds.rest (by
    have := on.fits; have := ds.fits; omega)
  some ⟨.inline on.value ds.value inner.value, inner.rest, by
    have := on.fits; have := ds.fits; have := inner.shorter; omega⟩

/-- Reads the name of a fragment with its directives, behind the points. -/
def spread : Reads Selection := fun ps => do
  let name ← takeName ps
  let ds ← directivesAt name.rest
  some ⟨.spread name.value ds.value, ds.rest, Nat.lt_of_le_of_lt ds.fits name.shorter⟩

/-- Reads one selection. A fragment may have the name `on`, if what follows is no type. -/
def selection : (n : Nat) → Within n Selection
  | 0, _, _ => none
  | n + 1, ps, h =>
    match takePoints ps with
    | some points =>
      match inline (selection n) points.rest (by have := points.shorter; omega) with
      | some t => some (t.widen (Nat.le_of_lt points.shorter))
      | none =>
        if (condition points.rest).isSome then none
        else (spread points.rest).map (·.widen (Nat.le_of_lt points.shorter))
    | none => do
      let name ← fieldName ps
      let args ← arguments name.rest
      let ds ← directivesAt args.rest
      let inner ← optionalSome '\x7b' '\x7d' (selection n) ds.rest (by
        have := name.shorter; have := args.fits; have := ds.fits; omega)
      let info : Field := ⟨placeOf ps, name.value.1, name.value.2, args.value, ds.value⟩
      some ⟨.field info inner.value, inner.rest, by
        have := name.shorter; have := args.fits; have := ds.fits; have := inner.fits; omega⟩

/-- Reads a row of selections, of which there is at least one. -/
def selectionSet : Reads (List Selection) := fun ps =>
  someBetween '\x7b' '\x7d' (selection ps.length) ps (Nat.le_succ _)

/-- Reads a character at the very front. -/
def takeHere (c : Char) : Reads Unit
  | [] => none
  | p :: r => if p.char = c then some ⟨(), r, Nat.lt_succ_self _⟩ else none

/-- Reads a type. Nothing may stand between its parts. -/
def typeHere : (n : Nat) → Within n TypeRef
  | 0, _, _ => none
  | n + 1, ps, h =>
    let plain : Option (Taken TypeRef ps.length) :=
      match takeHere '[' ps with
      | none => (takeNameHere ps).map (·.map .named)
      | some bracket => do
        let item ← typeHere n bracket.rest (by have := bracket.shorter; omega)
        let close ← takeHere ']' item.rest
        some ⟨.list item.value, close.rest,
          Nat.lt_trans close.shorter (Nat.lt_trans item.shorter bracket.shorter)⟩
    match plain with
    | none => none
    | some t =>
      match takeHere '!' t.rest with
      | none => some t
      | some mark => some ⟨.required t.value, mark.rest, Nat.lt_trans mark.shorter t.shorter⟩

/-- Reads a type. -/
def typeRef : Reads TypeRef := fun ps =>
  (typeHere (skip ps).length (skip ps) (Nat.le_refl _)).map (·.widen (length_skip_le ps))

/-- Reads the default of a variable, if it has one. -/
def defaultValue (ps : List Placed) : Option (Passed (Option Literal) ps.length) :=
  match takeMark '=' ps with
  | none => some ⟨none, ps, length_le_self ps⟩
  | some ⟨_, rest, shorter⟩ => do
    let v ← literal true rest.length rest (length_le_self rest)
    some ⟨some v.value, v.rest, Nat.le_of_lt (Nat.lt_trans v.shorter shorter)⟩

/-- Reads the declaration of a variable; its directives stand before its default. -/
def variableDef {n : Nat} : Within n VariableDef := fun ps _ => do
  let name ← takeVariable ps
  let colon ← takeMark ':' name.rest
  let type ← typeRef colon.rest
  let ds ← directivesAt type.rest
  let default ← defaultValue ds.rest
  some ⟨⟨name.value, type.value, default.value, ds.value⟩, default.rest, by
    have := name.shorter; have := colon.shorter; have := type.shorter; have := default.fits; have := ds.fits
    omega⟩

/-- A definition: an operation or a fragment. -/
inductive Definition where
  | operation (operation : Operation)
  | fragment (fragment : Fragment)

/-- Reads the word that opens an operation. -/
def operationKind : Reads OperationKind := fun ps =>
  match takeWord 'q' "uery".toList ps with
  | some t => some (t.map fun _ => .query)
  | none =>
    match takeWord 'm' "utation".toList ps with
    | some t => some (t.map fun _ => .mutation)
    | none => (takeWord 's' "ubscription".toList ps).map (·.map fun _ => .subscription)

/-- Reads a name, if one is there. -/
def optionalName (ps : List Placed) : Passed (Option String) ps.length :=
  match takeName ps with
  | none => ⟨none, ps, Nat.le_refl _⟩
  | some t => ⟨some t.value, t.rest, Nat.le_of_lt t.shorter⟩

/-- Reads an operation behind the word that opens it. -/
def operation (kind : OperationKind) : Reads Definition := fun ps => do
  let name := optionalName ps
  let vars ← optionalBetween '(' ')' variableDef name.rest (Nat.le_succ _)
  let ds ← directivesAt vars.rest
  let inner ← selectionSet ds.rest
  some ⟨.operation ⟨kind, name.value, vars.value, ds.value, inner.value⟩, inner.rest, by
    have := name.fits; have := vars.fits; have := ds.fits; have := inner.shorter; omega⟩

/-- Reads a fragment behind the word that opens it. -/
def fragment : Reads Definition := fun ps => do
  let name ← takeName ps
  let type ← condition name.rest
  let ds ← directivesAt type.rest
  let inner ← selectionSet ds.rest
  some ⟨.fragment ⟨name.value, type.value, ds.value, inner.value⟩, inner.rest, by
    have := name.shorter; have := type.shorter; have := ds.fits; have := inner.shorter; omega⟩

/-- Reads a definition; selections alone are a query without a name. -/
def definition : Reads Definition := fun ps =>
  match operationKind ps with
  | some kind => (operation kind.value kind.rest).map (·.widen (Nat.le_of_lt kind.shorter))
  | none =>
    match takeWord 'f' "ragment".toList ps with
    | some word => (fragment word.rest).map (·.widen (Nat.le_of_lt word.shorter))
    | none => (selectionSet ps).map (·.map fun inner => .operation ⟨.query, none, [], [], inner⟩)

/-- Reads all definitions, those read so far coming in reverse. -/
def definitions : (k : Nat) → List Definition → (ps : List Placed) → ps.length ≤ k → Option (List Definition)
  | 0, done, _, _ => some done.reverse
  | k + 1, done, ps, h =>
    if (skip ps).isEmpty then some done.reverse
    else
      match definition ps with
      | none => none
      | some d => definitions k (d.value :: done) d.rest (by have := d.shorter; omega)

/-- Whether the names in a list are different. -/
def distinct : List String → Bool
  | [] => true
  | name :: names => !names.contains name && distinct names

/-- The document of its definitions: there is an operation, one without a name is the only one, and
names are not used twice. -/
def Document.ofDefinitions? (ds : List Definition) : Option Document :=
  let operations := ds.filterMap fun | .operation o => some o | .fragment _ => none
  let fragments := ds.filterMap fun | .operation _ => none | .fragment f => some f
  let names := operations.filterMap (·.name)
  if operations.isEmpty then none
  else if names.length < operations.length && 1 < operations.length then none
  else if distinct names && distinct (fragments.map (·.name)) then some ⟨operations, fragments⟩
  else none

/-- The document in a text. -/
def Document.ofText? (text : String) : Option Document := do
  let ps := placed text
  let ds ← definitions ps.length [] ps (Nat.le_refl _)
  Document.ofDefinitions? ds

end CodeGate.GraphQL
