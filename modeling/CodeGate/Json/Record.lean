import CodeGate.Json.Skim

/-!
# Reading JSON of a known shape

A record has named slots in a fixed order. It is written as an object, whose members may come in any
order and among others, or as a list of its slots in their order. Each slot has a reader of its own,
which answers with the change that its value makes to the record.

Follows how `serde_json` reads the records that derive their readers.
-/

namespace CodeGate.Json

open CodeGate.Text

/-- The value as something that was not expected. -/
def Value.found : Value → Found
  | .null => .null
  | .bool b => .bool b
  | .number n => .number n
  | .string s => .string s
  | .list _ => .sequence
  | .object _ => .map

/-- The fault of a value whose first glyph is `g` where something else was expected. A list or an
object is not looked into; of every other value the whole is read. -/
def unexpected (expected : String) (g : Glyph) (r : List Glyph) : Fault :=
  if g = .char '[' then faultAt (.wrongType .sequence expected) (g :: r)
  else if g = .char '\x7b' then faultAt (.wrongType .map expected) (g :: r)
  else
    match scalar g r with
    | .error f => f
    | .ok p => faultAt (.wrongType p.value.found expected) p.rest

/-- Reads a string. -/
def text : Reader String := fun s =>
  match hs : skipSpace s with
  | [] => .error (faultAt .endInValue [])
  | g :: r =>
    if g = .char '"' then stringBody [] true r (rest_le_of_skipSpace hs)
    else .error (unexpected "a string" g r)

/-- Reads null or what the given reader reads. -/
def orNull {α : Type} (reader : Reader α) : Reader (Option α) := fun s =>
  match hs : skipSpace s with
  | [] => .error (faultAt .endInValue [])
  | g :: r =>
    have fits : (g :: r).length ≤ s.length := cons_le_of_skipSpace hs
    if g = .char 'n' then (word "ull".toList r fits).map (·.map fun _ => none)
    else (reader (g :: r)).map fun p => (p.map some).widen fits

/-- Reads an integer without a sign that fits 64 bits. -/
def natural64 : Reader Nat := fun s =>
  match hs : skipSpace s with
  | [] => .error (faultAt .endInValue [])
  | g :: r =>
    have fits : (g :: r).length ≤ s.length := cons_le_of_skipSpace hs
    let check (p : Parsed Number s.length) : Reading Nat s.length :=
      match p.value with
      | .integer n =>
        if n < 0 then .error (faultAt (.wrongValue (.number (.integer n)) "u64") p.rest)
        else .ok ⟨n.toNat, p.rest, p.shorter⟩
      | .float x => .error (faultAt (.wrongType (.number (.float x)) "u64") p.rest)
    if g = .char '-' then
      match unsignedNumber true r with
      | .error f => .error f
      | .ok p => check (p.widen (rest_le_of_skipSpace hs))
    else if (digit? g).isSome then
      match unsignedNumber false (g :: r) with
      | .error f => .error f
      | .ok p => check (p.widen fits)
    else .error (unexpected "u64" g r)

/-- Reads a list whose items the given reader reads. -/
def listOf {α : Type} (item : Nat → Reader α) (depth : Nat) : Reader (List α) := fun s =>
  match hs : skipSpace s with
  | [] => .error (faultAt .endInValue [])
  | g :: r =>
    if g = .char '[' then
      match depth with
      | 0 => .error (faultPast .tooDeep (g :: r))
      | depth + 1 => items (item depth) [] r (rest_le_of_skipSpace hs)
    else .error (unexpected "a sequence" g r)

/-- Reads an object with any members. -/
def object (depth : Nat) : Reader Members := fun s =>
  match hs : skipSpace s with
  | [] => .error (faultAt .endInValue [])
  | g :: r =>
    if g = .char '\x7b' then
      match depth with
      | 0 => .error (faultPast .tooDeep (g :: r))
      | depth + 1 => (entries (value depth) [] r (rest_le_of_skipSpace hs)).map (·.map Members.ofList)
    else .error (unexpected "a map" g r)

/-- A slot of a record: its name, whether it has to be given, and the reader of its value, which may
open so many lists and objects one in another. -/
structure Slot (α : Type) where
  name : String
  required : Bool
  read : Nat → Reader (α → α)

/-- A shape: the name of a record, its slots in their order, and the record without any slot given. -/
structure Shape (α : Type) where
  title : String
  slots : List (Slot α)
  blank : α

namespace Shape

variable {α : Type}

/-- What a list for a record has to be. -/
def expectation (shape : Shape α) : String :=
  let n := shape.slots.length
  "struct " ++ shape.title ++ " with " ++ toString n ++ (if n = 1 then " element" else " elements")

/-- Reads the end of a list for a record behind its last slot. -/
def listEnd {bound : Nat} (record : α) (s : List Glyph) (h : s.length ≤ bound) : Reading α bound :=
  match hs : skipSpace s with
  | [] => .error (faultAt .endInList [])
  | g :: r =>
    have fits : (g :: r).length ≤ s.length := cons_le_of_skipSpace hs
    if g = .char ']' then .ok ⟨record, r, Nat.lt_of_lt_of_le fits h⟩
    else if g = .char ',' then
      match skipSpace r with
      | [] => .error (faultAt .trailingCharacters [])
      | g' :: r' =>
        .error (faultPast (if g' = .char ']' then .trailingComma else .trailingCharacters) (g' :: r'))
    else .error (faultPast .trailingCharacters (g :: r))

/-- Reads the slots of a record from a list behind its opening bracket: `slots` are those left, and
`index` have been read. -/
def fromList {bound : Nat} (shape : Shape α) (depth : Nat) :
    (slots : List (Slot α)) → (index : Nat) → α → (s : List Glyph) → s.length ≤ bound → Reading α bound
  | [], _, record, s, h => listEnd record s h
  | slot :: slots, index, record, s, h =>
    match nextItem (index == 0) s with
    | .error f => .error f
    | .ok (.close r hr) =>
      match (slot :: slots).findIdx? (·.required) with
      | some i => .error (faultAt (.wrongLength (index + i) shape.expectation) r)
      | none => .ok ⟨record, r, Nat.lt_of_lt_of_le hr h⟩
    | .ok (.entry r hr) =>
      match slot.read depth r with
      | .error f => .error (f.within (.item index))
      | .ok p => fromList shape depth slots (index + 1) (p.value record) p.rest (by have := p.shorter; omega)

/-- Where a second member for one slot is noticed: behind its key and the white space there, and
behind a closing brace if that comes next. -/
def duplicatePlace (s : List Glyph) : List Glyph :=
  match skipSpace s with
  | .char '\x7d' :: r => r
  | r => r

/-- Reads the slots of a record from an object behind its opening brace; `given` are the names of the
slots read so far, and `first` says that no member has been read. -/
def fromObject {bound : Nat} (shape : Shape α) (depth : Nat) (given : List String) (first : Bool) (record : α)
    (s : List Glyph) (h : s.length ≤ bound) : Reading α bound :=
  match nextKey first s with
  | .error f => .error f
  | .ok (.close r hr) =>
    match shape.slots.find? fun slot => slot.required && !given.contains slot.name with
    | some slot => .error (faultAt (.missingField slot.name) r)
    | none => .ok ⟨record, r, Nat.lt_of_lt_of_le hr h⟩
  | .ok (.entry r hr) =>
    match stringBody [] true r (length_le_self r) with
    | .error f => .error f
    | .ok key =>
      let slot? := shape.slots.find? (·.name = key.value)
      if slot?.isSome && given.contains key.value then
        .error (faultAt (.duplicateField key.value) (duplicatePlace key.rest))
      else
        match colon key.rest with
        | .error f => .error f
        | .ok c =>
          match slot? with
          | none =>
            match skim c.rest with
            | .error f => .error (f.within (.member key.value))
            | .ok p =>
              fromObject shape depth given false record p.rest
                (by have := p.shorter; have := c.shorter; have := key.shorter; omega)
          | some slot =>
            match slot.read depth c.rest with
            | .error f => .error (f.within (.member key.value))
            | .ok p =>
              fromObject shape depth (key.value :: given) false (p.value record) p.rest
                (by have := p.shorter; have := c.shorter; have := key.shorter; omega)
termination_by s.length
decreasing_by
  all_goals
    have := p.shorter
    have := c.shorter
    have := key.shorter
    omega

/-- Reads a record. -/
def reader (shape : Shape α) (depth : Nat) : Reader α := fun s =>
  match hs : skipSpace s with
  | [] => .error (faultAt .endInValue [])
  | g :: r =>
    if g = .char '[' then
      match depth with
      | 0 => .error (faultPast .tooDeep (g :: r))
      | depth + 1 => shape.fromList depth shape.slots 0 shape.blank r (rest_le_of_skipSpace hs)
    else if g = .char '\x7b' then
      match depth with
      | 0 => .error (faultPast .tooDeep (g :: r))
      | depth + 1 => shape.fromObject depth [] true shape.blank r (rest_le_of_skipSpace hs)
    else .error (unexpected ("struct " ++ shape.title) g r)

/-- The record that starts a text; what follows it is not looked at. -/
def readFront (shape : Shape α) (text : List Glyph) : Except Fault α :=
  (shape.reader maxDepth text).map (·.value)

/-- The record that a whole text stands for. -/
def readWhole (shape : Shape α) (text : List Glyph) : Except Fault α := do
  let p ← shape.reader maxDepth text
  finish p.rest
  pure p.value

end Shape

end CodeGate.Json
