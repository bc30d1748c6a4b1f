import CodeGate.Json.Token

/-!
# Reading a JSON value

A value is read by recursion on the number of lists and objects that may still be opened inside it;
the items of a list and the members of an object are read by recursion on the glyphs left. The whole
text has to be one value with white space around it.

Follows how `serde_json` reads values.
-/

namespace CodeGate.Json

open CodeGate.Text

/-- What a reader of lists and objects finds next: the end, with the glyphs behind the closing
bracket, or the place where an entry starts. -/
inductive Turn (bound : Nat) where
  | close (rest : List Glyph) (shorter : rest.length < bound)
  | entry (rest : List Glyph) (fits : rest.length ≤ bound)

/-- Looks for the next item of a list, a comma having to stand before all but the first. -/
def nextItem (first : Bool) (s : List Glyph) : Except Fault (Turn s.length) :=
  match hs : skipSpace s with
  | [] => .error (faultAt .endInList [])
  | g :: r =>
    have fits : (g :: r).length ≤ s.length := cons_le_of_skipSpace hs
    if g = .char ']' then .ok (.close r fits)
    else if first then .ok (.entry (g :: r) fits)
    else if g = .char ',' then
      match hr : skipSpace r with
      | [] => .error (faultAt .endInValue [])
      | g' :: r' =>
        if g' = .char ']' then .error (faultPast .trailingComma (g' :: r'))
        else .ok (.entry (g' :: r') (cons_le_of_skipSpace_cons hs hr))
    else .error (faultPast .noCommaInList (g :: r))

/-- Looks for the next key of an object, a comma having to stand before all but the first; the entry
starts behind the opening quote of the key. -/
def nextKey (first : Bool) (s : List Glyph) : Except Fault (Turn s.length) :=
  let key (g : Glyph) (r : List Glyph) (fits : (g :: r).length ≤ s.length) : Except Fault (Turn s.length) :=
    if g = .char '"' then .ok (.entry r (length_le_of_cons_le fits))
    else if g = .char '\x7d' then .error (faultPast .trailingComma (g :: r))
    else .error (faultPast .keyNotString (g :: r))
  match hs : skipSpace s with
  | [] => .error (faultAt .endInObject [])
  | g :: r =>
    have fits : (g :: r).length ≤ s.length := cons_le_of_skipSpace hs
    if g = .char '\x7d' then .ok (.close r fits)
    else if first then key g r fits
    else if g = .char ',' then
      match hr : skipSpace r with
      | [] => .error (faultAt .endInValue [])
      | g' :: r' => key g' r' (cons_le_of_skipSpace_cons hs hr)
    else .error (faultPast .noCommaInObject (g :: r))

/-- Reads the colon behind a key. -/
def colon (s : List Glyph) : Reading Unit s.length :=
  match hs : skipSpace s with
  | [] => .error (faultAt .endInObject [])
  | g :: r =>
    have fits : (g :: r).length ≤ s.length := cons_le_of_skipSpace hs
    if g = .char ':' then .ok ⟨(), r, fits⟩
    else .error (faultPast .noColon (g :: r))

/-- A reader that can be started on any glyphs. -/
abbrev Reader (α : Type) := (s : List Glyph) → Reading α s.length

/-- Reads the items of a list behind its opening bracket; those read so far come in reverse. -/
def items {α : Type} {bound : Nat} (item : Reader α) (done : List α) (s : List Glyph) (h : s.length ≤ bound) :
    Reading (List α) bound :=
  match nextItem done.isEmpty s with
  | .error f => .error f
  | .ok (.close r hr) => .ok ⟨done.reverse, r, Nat.lt_of_lt_of_le hr h⟩
  | .ok (.entry r hr) =>
    match item r with
    | .error f => .error (f.within (.item done.length))
    | .ok p => items item (p.value :: done) p.rest (by have := p.shorter; omega)
termination_by s.length
decreasing_by have := p.shorter; omega

/-- Reads a key behind its opening quote, and the colon behind it. -/
def keyAndColon (s : List Glyph) : Reading String s.length :=
  match stringBody [] true s (length_le_self s) with
  | .error f => .error (f.within .unnamed)
  | .ok key =>
    match colon key.rest with
    | .error f => .error f
    | .ok p => .ok ⟨key.value, p.rest, Nat.lt_trans p.shorter key.shorter⟩

/-- Reads the members of an object behind its opening brace; those read so far come in reverse. -/
def entries {α : Type} {bound : Nat} (value : Reader α) (done : List (String × α)) (s : List Glyph)
    (h : s.length ≤ bound) : Reading (List (String × α)) bound :=
  match nextKey done.isEmpty s with
  | .error f => .error (f.within .unnamed)
  | .ok (.close r hr) => .ok ⟨done.reverse, r, Nat.lt_of_lt_of_le hr h⟩
  | .ok (.entry r hr) =>
    match keyAndColon r with
    | .error f => .error f
    | .ok key =>
      match value key.rest with
      | .error f => .error (f.within (.member key.value))
      | .ok p =>
        entries value ((key.value, p.value) :: done) p.rest
          (by have := p.shorter; have := key.shorter; omega)
termination_by s.length
decreasing_by have := p.shorter; have := key.shorter; omega

/-- Reads a value that is no list and no object: `g` is its first glyph and `r` lies behind. -/
def scalar (g : Glyph) (r : List Glyph) : Reading Value (g :: r).length :=
  if g = .char 'n' then (word "ull".toList r (length_lt_cons g r)).map (·.map fun _ => .null)
  else if g = .char 't' then (word "rue".toList r (length_lt_cons g r)).map (·.map fun _ => .bool true)
  else if g = .char 'f' then (word "alse".toList r (length_lt_cons g r)).map (·.map fun _ => .bool false)
  else if g = .char '"' then
    (stringBody [] true r (length_le_cons g r)).map (·.map Value.string)
  else if g = .char '-' then
    (unsignedNumber true r).map fun p => (p.map Value.number).widen (length_le_cons g r)
  else if (digit? g).isSome then (unsignedNumber false (g :: r)).map (·.map Value.number)
  else .error (faultPast .noValue (g :: r))

/-- Reads a value in which `depth` lists and objects may stand one in another. -/
def value : (depth : Nat) → Reader Value
  | depth, s =>
    match hs : skipSpace s with
    | [] => .error (faultAt .endInValue [])
    | g :: r =>
      have fits : (g :: r).length ≤ s.length := cons_le_of_skipSpace hs
      if g = .char '[' then
        match depth with
        | 0 => .error (faultPast .tooDeep (g :: r))
        | depth + 1 =>
          (items (value depth) [] r (rest_le_of_skipSpace hs)).map (·.map Value.list)
      else if g = .char '\x7b' then
        match depth with
        | 0 => .error (faultPast .tooDeep (g :: r))
        | depth + 1 =>
          (entries (value depth) [] r (rest_le_of_skipSpace hs)).map
            (·.map fun ms => Value.object (Members.ofList ms))
      else (scalar g r).map (·.widen fits)

/-- The number of lists and objects that may stand one in another. -/
def maxDepth : Nat := 127

/-- Refuses anything but white space. -/
def finish (s : List Glyph) : Except Fault Unit :=
  match skipSpace s with
  | [] => .ok ()
  | rest => .error (faultPast .trailingCharacters rest)

/-- The value that a whole text stands for. -/
def readGlyphs (text : List Glyph) : Except Fault Value := do
  let p ← value maxDepth text
  finish p.rest
  pure p.value

/-- The value that a whole text stands for, or what is wrong with it, in words. -/
def read (text : String) : Except String Value :=
  let glyphs := Glyph.ofString text
  match readGlyphs glyphs with
  | .ok v => .ok v
  | .error f => .error (f.message glyphs)

end CodeGate.Json
