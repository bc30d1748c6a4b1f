import CodeGate.Json.Reader

/-!
# Passing over a value

A member that nobody asked for is passed over: brackets have to match and every token has to be
well formed, but the value is not built. So nothing limits how deep it is, halves of surrogate pairs
may stand alone, stray bytes may stand in strings and numbers may be of any size.

Follows how `serde_json` passes over members that no record has.
-/

namespace CodeGate.Json

open CodeGate.Text

/-- Passes over a string behind its opening quote. -/
def skimString {bound : Nat} (s : List Glyph) (h : s.length ≤ bound) : Reading Unit bound :=
  match s with
  | [] => .error (faultAt .endInString [])
  | .stray _ :: r => skimString r (length_le_of_cons_le h)
  | .char c :: r =>
    if c = '"' then .ok ⟨(), r, length_lt_of_cons_le h⟩
    else if c = '\\' then
      match r with
      | [] => .error (faultAt .endInString [])
      | .char 'u' :: r₁ =>
        match hexEscape r₁ with
        | .error f => .error f
        | .ok p => skimString p.rest (Nat.le_trans (Nat.le_of_lt p.shorter) (length_le_of_cons_le (length_le_of_cons_le h)))
      | .char e :: r₁ =>
        if (letterEscape? e).isSome then skimString r₁ (length_le_of_cons_le (length_le_of_cons_le h))
        else .error (faultPast .unknownEscape (.char e :: r₁))
      | .stray b :: r₁ => .error (faultPast .unknownEscape (.stray b :: r₁))
    else if c.toNat < 0x20 then .error (faultAt .rawControl (.char c :: r))
    else skimString r (length_le_of_cons_le h)
termination_by s.length
decreasing_by
  · exact length_lt_cons _ _
  · exact Nat.lt_trans p.shorter (Nat.lt_succ_of_lt (length_lt_cons _ _))
  · exact Nat.lt_succ_of_lt (length_lt_cons _ _)
  · exact length_lt_cons _ _

/-- Passes over the digits of an exponent behind its letter. -/
def skimExponent {bound : Nat} (s : List Glyph) (h : s.length < bound) : Reading Unit bound :=
  match spanDigits (exponentSign s).2 with
  | ([], _) => .error (faultPast .badNumber (exponentSign s).2)
  | _ =>
    .ok ⟨(), (spanDigits (exponentSign s).2).2, by
      have := length_spanDigits_le (exponentSign s).2
      have := length_exponentSign_le s
      omega⟩

/-- Passes over the exponent of a number, if it has one. -/
def skimExponentPart {bound : Nat} (s : List Glyph) (h : s.length < bound) : Reading Unit bound :=
  match s with
  | [] => .ok ⟨(), [], h⟩
  | g :: r =>
    if g = .char 'e' ∨ g = .char 'E' then skimExponent r (length_lt_of_cons_lt h)
    else .ok ⟨(), g :: r, h⟩

/-- Passes over the fraction and the exponent of a number, if it has any. -/
def skimNumberTail {bound : Nat} (s : List Glyph) (h : s.length < bound) : Reading Unit bound :=
  match s with
  | .char '.' :: r =>
    match spanDigits r with
    | ([], _) => .error (faultPast .badNumber r)
    | _ => skimExponentPart (spanDigits r).2 (by
        have := length_spanDigits_le r
        simp at h
        omega)
  | s => skimExponentPart s h

/-- Passes over a number behind its sign. -/
def skimNumber (s : List Glyph) : Reading Unit s.length :=
  match s with
  | [] => .error (faultPast .badNumber [])
  | g :: r =>
    match digit? g with
    | none => .error (faultPast .badNumber (g :: r))
    | some 0 =>
      match spanDigits r with
      | ([], _) => skimNumberTail r (length_lt_cons g r)
      | _ => .error (faultPast .badNumber r)
    | some _ => skimNumberTail (spanDigits r).2 (length_spanDigits_lt g r)

/-- Passes over a value that is no list and no object. -/
def skimScalar (g : Glyph) (r : List Glyph) : Reading Unit (g :: r).length :=
  if g = .char 'n' then word "ull".toList r (length_lt_cons g r)
  else if g = .char 't' then word "rue".toList r (length_lt_cons g r)
  else if g = .char 'f' then word "alse".toList r (length_lt_cons g r)
  else if g = .char '"' then skimString r (length_le_cons g r)
  else if g = .char '-' then (skimNumber r).map (·.widen (length_le_cons g r))
  else if (digit? g).isSome then skimNumber (g :: r)
  else .error (faultPast .noValue (g :: r))

/-- A list or an object that has been opened. -/
inductive Frame where
  | list
  | object
  deriving DecidableEq

/-- The bracket that closes a frame. -/
def Frame.closing : Frame → Glyph
  | .list => .char ']'
  | .object => .char '\x7d'

/-- Passes over a key with its quotes, and the colon behind it. -/
def skimKey (s : List Glyph) : Reading Unit s.length :=
  match hs : skipSpace s with
  | [] => .error (faultAt .endInObject [])
  | g :: r =>
    have fits : (g :: r).length ≤ s.length := cons_le_of_skipSpace hs
    if g = .char '"' then
      match skimString r (length_le_self r) with
      | .error f => .error f
      | .ok p => (colon p.rest).map (·.widen (Nat.le_of_lt (Nat.lt_trans p.shorter fits)))
    else .error (faultPast .keyNotString (g :: r))

mutual

/-- Passes over a value, and over what is left of the frames around it. -/
def skimEntry {bound : Nat} (stack : List Frame) (s : List Glyph) (h : s.length ≤ bound) :
    Reading Unit bound :=
  match hs : skipSpace s with
  | [] => .error (faultAt .endInValue [])
  | g :: r =>
    have fits : (g :: r).length ≤ s.length := cons_le_of_skipSpace hs
    if g = .char '[' then skimOpened .list stack r (Nat.le_trans fits h)
    else if g = .char '\x7b' then skimOpened .object stack r (Nat.le_trans fits h)
    else
      match skimScalar g r with
      | .error f => .error f
      | .ok p => skimAfter stack p.rest (by have := p.shorter; omega)
termination_by (s.length, 0)
decreasing_by
  · exact Prod.Lex.left _ _ fits
  · exact Prod.Lex.left _ _ fits
  · exact Prod.Lex.left _ _ (Nat.lt_of_lt_of_le p.shorter fits)

/-- Passes over what is left of a frame that has just been opened, and of the frames around it. -/
def skimOpened {bound : Nat} (frame : Frame) (stack : List Frame) (s : List Glyph) (h : s.length < bound) :
    Reading Unit bound :=
  match hs : skipSpace s with
  | [] => .error (faultAt (if frame = .list then .endInList else .endInObject) [])
  | g :: r =>
    have fits : (g :: r).length ≤ s.length := cons_le_of_skipSpace hs
    if g = frame.closing then skimAfter stack r (by simp at fits; omega)
    else
      match frame with
      | .list => skimEntry (.list :: stack) s (Nat.le_of_lt h)
      | .object =>
        match skimKey s with
        | .error f => .error f
        | .ok p => skimEntry (.object :: stack) p.rest (by have := p.shorter; omega)
termination_by (s.length, 1)
decreasing_by
  · exact Prod.Lex.left _ _ fits
  · exact Prod.Lex.right _ Nat.zero_lt_one
  · exact Prod.Lex.left _ _ p.shorter

/-- Passes over what is left of the frames around a value. -/
def skimAfter {bound : Nat} (stack : List Frame) (s : List Glyph) (h : s.length < bound) :
    Reading Unit bound :=
  match stack with
  | [] => .ok ⟨(), s, h⟩
  | frame :: stack =>
    match hs : skipSpace s with
    | [] => .error (faultAt (if frame = .list then .endInList else .endInObject) [])
    | g :: r =>
      have fits : (g :: r).length ≤ s.length := cons_le_of_skipSpace hs
      if g = .char ',' then
        match frame with
        | .list => skimEntry (.list :: stack) r (by simp at fits; omega)
        | .object =>
          match skimKey r with
          | .error f => .error f
          | .ok p => skimEntry (.object :: stack) p.rest (by have := p.shorter; simp at fits; omega)
      else if g = frame.closing then skimAfter stack r (by simp at fits; omega)
      else .error (faultPast (if frame = .list then .noCommaInList else .noCommaInObject) (g :: r))
termination_by (s.length, 0)
decreasing_by
  · exact Prod.Lex.left _ _ fits
  · exact Prod.Lex.left _ _ (Nat.lt_trans p.shorter fits)
  · exact Prod.Lex.left _ _ fits

end

/-- Passes over a value. -/
def skim : Reader Unit := fun s => skimEntry [] s (length_le_self s)

end CodeGate.Json
