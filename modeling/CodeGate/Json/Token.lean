import CodeGate.Json.Fault
import CodeGate.Word

/-!
# The small parts of JSON text

White space, words, numbers and strings, each read off the front of a row of glyphs. A reader answers
with what it read and the glyphs behind it, together with the proof that these are fewer than it was
given, on which the termination of every larger reader rests.

Follows how `serde_json` reads values.
-/

namespace CodeGate.Json

open CodeGate.Text

/-- What a reader found, and the glyphs behind it: fewer than `bound`. -/
structure Parsed (α : Type) (bound : Nat) where
  value : α
  rest : List Glyph
  shorter : rest.length < bound

/-- What a reader answers: a result and the glyphs behind it, or a fault. -/
abbrev Reading (α : Type) (bound : Nat) := Except Fault (Parsed α bound)

namespace Parsed

/-- The same glyphs behind another result. -/
def map {α β : Type} {bound : Nat} (f : α → β) (p : Parsed α bound) : Parsed β bound :=
  ⟨f p.value, p.rest, p.shorter⟩

/-- What is fewer than a bound is fewer than a larger bound. -/
def widen {α : Type} {m n : Nat} (h : m ≤ n) (p : Parsed α m) : Parsed α n :=
  ⟨p.value, p.rest, Nat.lt_of_lt_of_le p.shorter h⟩

end Parsed

/-- A fault behind which the given glyphs lie. -/
def faultAt (cause : Cause) (rest : List Glyph) : Fault :=
  ⟨cause, Glyph.bytes rest, []⟩

/-- A fault just behind the first byte of the given glyphs, or at their end if there is none. -/
def faultPast (cause : Cause) (rest : List Glyph) : Fault :=
  ⟨cause, Glyph.bytes rest - 1, []⟩

/-- The white space of JSON. -/
def isSpace (g : Glyph) : Bool :=
  g = .char ' ' || g = .char '\n' || g = .char '\t' || g = .char '\r'

/-- The glyphs from the first one on that is no white space. -/
def skipSpace (s : List Glyph) : List Glyph :=
  s.dropWhile isSpace

theorem length_skipSpace_le (s : List Glyph) : (skipSpace s).length ≤ s.length :=
  (List.dropWhile_sublist isSpace).length_le

section Shorter

variable {g g' : Glyph} {r r' s : List Glyph} {n : Nat}

theorem length_le_self (s : List Glyph) : s.length ≤ s.length := Nat.le_refl _

theorem length_lt_cons (g : Glyph) (r : List Glyph) : r.length < (g :: r).length := Nat.lt_succ_self _

theorem length_le_cons (g : Glyph) (r : List Glyph) : r.length ≤ (g :: r).length := Nat.le_succ _

theorem length_lt_of_cons_lt (h : (g :: r).length < n) : r.length < n := Nat.lt_of_succ_lt h

theorem length_le_of_cons_le (h : (g :: r).length ≤ n) : r.length ≤ n := Nat.le_of_succ_le h

theorem length_lt_of_cons_le (h : (g :: r).length ≤ n) : r.length < n := h

theorem cons_le_of_skipSpace (h : skipSpace s = g :: r) : (g :: r).length ≤ s.length :=
  h ▸ length_skipSpace_le s

theorem rest_le_of_skipSpace (h : skipSpace s = g :: r) : r.length ≤ s.length :=
  length_le_of_cons_le (cons_le_of_skipSpace h)

theorem cons_le_of_skipSpace_cons (h : skipSpace s = g :: r) (h' : skipSpace r = g' :: r') :
    (g' :: r').length ≤ s.length :=
  Nat.le_trans (cons_le_of_skipSpace h') (rest_le_of_skipSpace h)

end Shorter

/-- Reads the remaining letters of a word. -/
def word {bound : Nat} : (letters : List Char) → (s : List Glyph) → s.length < bound → Reading Unit bound
  | [], s, h => .ok ⟨(), s, h⟩
  | _ :: _, [], _ => .error (faultAt .endInValue [])
  | c :: letters, g :: s, h =>
    if g = .char c then word letters s (Nat.lt_of_succ_lt h)
    else .error (faultPast .noWord (g :: s))

/-- The value of a decimal digit. -/
def digit? : Glyph → Option Nat
  | .char c => if c.isDigit then some (c.toNat - 48) else none
  | .stray _ => none

/-- The digits at the front and the glyphs behind them. -/
def spanDigits : List Glyph → List Nat × List Glyph
  | [] => ([], [])
  | g :: s =>
    match digit? g with
    | none => ([], g :: s)
    | some d => let (ds, rest) := spanDigits s; (d :: ds, rest)

theorem length_spanDigits_le (s : List Glyph) : (spanDigits s).2.length ≤ s.length := by
  induction s with
  | nil => simp [spanDigits]
  | cons g s ih =>
    cases h : digit? g <;> simp [spanDigits, h]
    omega

theorem length_spanDigits_lt (g : Glyph) (r : List Glyph) : (spanDigits r).2.length < (g :: r).length :=
  Nat.lt_succ_of_le (length_spanDigits_le r)

/-- The limit that a significand stays below. -/
def significandLimit : Nat := Word.count

/-- A decimal significand with the power of ten that goes with it. -/
structure Significand where
  value : Nat
  exponent : Int
  full : Bool

/-- Adds a digit before the point: once one does not fit, it and those behind it only raise the
exponent. -/
def Significand.pushWhole (s : Significand) (d : Nat) : Significand :=
  if s.full || significandLimit ≤ s.value * 10 + d then { s with exponent := s.exponent + 1, full := true }
  else { s with value := s.value * 10 + d }

/-- Adds a digit behind the point: once one does not fit, it and those behind it are dropped. -/
def Significand.pushFraction (s : Significand) (d : Nat) : Significand :=
  if s.full || significandLimit ≤ s.value * 10 + d then { s with full := true }
  else { s with value := s.value * 10 + d, exponent := s.exponent - 1 }

/-- A magnitude times a power of ten, by one product or quotient with a rounded power of ten where
the exponent allows it and by repeated quotients before that where it does not; nothing if the result is
too large. -/
def timesPowerOfTen? (x : Binary64) (exponent : Int) : Option Binary64 :=
  if exponent.natAbs ≤ 308 then
    if 0 ≤ exponent then x.mul? (Binary64.powerOfTen exponent.toNat)
    else x.div? (Binary64.powerOfTen (-exponent).toNat)
  else if x.isZero then some x
  else if 0 ≤ exponent then none
  else timesPowerOfTen? ((x.div? (Binary64.powerOfTen 308)).getD Binary64.zero) (exponent + 308)
termination_by (-exponent).toNat
decreasing_by omega

/-- The binary64 number for a significand, a sign and an exponent. -/
def floatOf {bound : Nat} (negative : Bool) (s : Significand) (rest : List Glyph) (h : rest.length < bound) :
    Reading Number bound :=
  match timesPowerOfTen? (Binary64.ofNat s.value) s.exponent with
  | none => .error (faultAt .numberTooLarge rest)
  | some x => .ok ⟨.float (if negative then x.neg else x), rest, h⟩

/-- The limit that an exponent stays below. -/
def exponentLimit : Nat := 0x80000000

/-- An exponent kept between the least and the greatest 32-bit integer. -/
def clampExponent (e : Int) : Int :=
  max (-0x80000000) (min 0x7FFFFFFF e)

/-- The digits of an exponent, until the end or the digit with which the exponent passes its limit:
the exponent, whether it passed the limit, and the glyphs behind the last digit looked at. -/
def exponentDigits : Nat → List Glyph → Nat × Bool × List Glyph
  | e, [] => (e, false, [])
  | e, g :: s =>
    match digit? g with
    | none => (e, false, g :: s)
    | some d =>
      if exponentLimit ≤ e * 10 + d then (e, true, s)
      else exponentDigits (e * 10 + d) s

theorem length_exponentDigits_le (e : Nat) (s : List Glyph) :
    (exponentDigits e s).2.2.length ≤ s.length := by
  induction s generalizing e with
  | nil => simp [exponentDigits]
  | cons g s ih =>
    unfold exponentDigits
    split
    · simp
    · split
      · simp
      · exact Nat.le_succ_of_le (ih _)

/-- The sign in front of an exponent, true for a minus, and the glyphs behind it. -/
def exponentSign : List Glyph → Bool × List Glyph
  | .char '+' :: r => (false, r)
  | .char '-' :: r => (true, r)
  | r => (false, r)

theorem length_exponentSign_le (s : List Glyph) : (exponentSign s).2.length ≤ s.length := by
  unfold exponentSign
  split <;> simp

/-- Reads what follows the letter of an exponent. -/
def exponentPart {bound : Nat} (negative : Bool) (sig : Significand) (s : List Glyph) (h : s.length < bound) :
    Reading Number bound :=
  match hs : (exponentSign s).2 with
  | [] => .error (faultAt .endInValue [])
  | g :: r =>
    match digit? g with
    | none => .error (faultPast .badNumber (g :: r))
    | some d =>
      match hd : exponentDigits d r with
      | (e, passed, rest) =>
        have shorter : rest.length < bound := by
          have h₁ := length_exponentDigits_le d r
          have h₂ := length_exponentSign_le s
          rw [hd] at h₁
          rw [hs] at h₂
          simp at h₁ h₂
          omega
        if passed then
          if sig.value ≠ 0 ∧ !(exponentSign s).1 then .error (faultAt .numberTooLarge rest)
          else
            .ok ⟨.float ⟨negative, 0, -1074⟩, (spanDigits rest).2,
              Nat.lt_of_le_of_lt (length_spanDigits_le _) shorter⟩
        else
          let exponent := clampExponent (if (exponentSign s).1 then sig.exponent - e else sig.exponent + e)
          floatOf negative { sig with exponent } rest shorter

/-- Reads the fraction and the exponent of a number, if it has any. A number without either is an
integer if it fits. -/
def numberTail {bound : Nat} (negative : Bool) (sig : Significand) (s : List Glyph) (h : s.length < bound) :
    Reading Number bound :=
  match s with
  | .char '.' :: r =>
    match hd : spanDigits r with
    | ([], _) => .error (faultPast (if r = [] then .endInValue else .badNumber) r)
    | (ds, rest) =>
      have shorter : rest.length < bound := by
        have := length_spanDigits_le r
        rw [hd] at this
        simp at this h
        omega
      let sig := ds.foldl Significand.pushFraction { sig with full := false }
      match rest with
      | .char 'e' :: more => exponentPart negative sig more (Nat.lt_of_succ_lt shorter)
      | .char 'E' :: more => exponentPart negative sig more (Nat.lt_of_succ_lt shorter)
      | rest => floatOf negative sig rest shorter
  | .char 'e' :: r => exponentPart negative sig r (Nat.lt_of_succ_lt h)
  | .char 'E' :: r => exponentPart negative sig r (Nat.lt_of_succ_lt h)
  | s =>
    if sig.full then floatOf negative sig s h
    else if !negative then .ok ⟨.integer sig.value, s, h⟩
    else if sig.value = 0 ∨ Word.half < sig.value then
      .ok ⟨.float (Binary64.ofNat sig.value).neg, s, h⟩
    else .ok ⟨.integer (-sig.value), s, h⟩

/-- Reads a number behind its sign. -/
def unsignedNumber (negative : Bool) (s : List Glyph) : Reading Number s.length :=
  match hs : s with
  | [] => .error (faultAt .endInValue [])
  | g :: r =>
    match digit? g with
    | none => .error (faultPast .badNumber (g :: r))
    | some 0 =>
      match r with
      | [] => numberTail negative ⟨0, 0, false⟩ [] (by simp)
      | g' :: r' =>
        if (digit? g').isSome then .error (faultPast .badNumber (g' :: r'))
        else numberTail negative ⟨0, 0, false⟩ (g' :: r') (by simp)
    | some d =>
      let sig := (spanDigits r).1.foldl Significand.pushWhole ⟨d, 0, false⟩
      numberTail negative sig (spanDigits r).2 (length_spanDigits_lt g r)

/-- The value of a hexadecimal digit. -/
def hexDigit? : Glyph → Option Nat
  | .char c =>
    if c.isDigit then some (c.toNat - 48)
    else if 'a' ≤ c ∧ c ≤ 'f' then some (c.toNat - 87)
    else if 'A' ≤ c ∧ c ≤ 'F' then some (c.toNat - 55)
    else none
  | .stray _ => none

/-- The number that four hexadecimal digits stand for. -/
def hexFour? (a b c d : Glyph) : Option Nat := do
  let a ← hexDigit? a
  let b ← hexDigit? b
  let c ← hexDigit? c
  let d ← hexDigit? d
  some (a * 4096 + b * 256 + c * 16 + d)

/-- The fault of a hexadecimal escape whose four digits do not all stand in `s`: four bytes are
looked at, or the text ends before. -/
def hexFault (s : List Glyph) : Fault :=
  if Glyph.bytes s < 4 then faultAt .endInString []
  else ⟨.unknownEscape, Glyph.bytes s - 4, []⟩

/-- The number of a hexadecimal escape and the glyphs behind it. -/
def hexEscape (s : List Glyph) : Reading Nat s.length :=
  match s with
  | a :: b :: c :: d :: r =>
    match hexFour? a b c d with
    | some n => .ok ⟨n, r, by simp; omega⟩
    | none => .error (hexFault (a :: b :: c :: d :: r))
  | s => .error (hexFault s)

/-- Whether the number is the first half of a surrogate pair. -/
def isHighSurrogate (n : Nat) : Bool := 0xD800 ≤ n && n ≤ 0xDBFF

/-- Whether the number is the second half of a surrogate pair. -/
def isLowSurrogate (n : Nat) : Bool := 0xDC00 ≤ n && n ≤ 0xDFFF

/-- The character of an escape with a number, and the glyphs behind it: a first half of a surrogate
pair needs its second half in another escape right behind. -/
def unicodeEscape (s : List Glyph) : Reading Char s.length :=
  match hexEscape s with
  | .error f => .error f
  | .ok p =>
    if isLowSurrogate p.value then .error (faultAt .loneSurrogate p.rest)
    else if !isHighSurrogate p.value then .ok (p.map Char.ofNat)
    else
      match hr : p.rest with
      | [] => .error (faultAt .endInString [])
      | .char '\\' :: r₁ =>
        match r₁ with
        | [] => .error (faultAt .endInString [])
        | .char 'u' :: r₂ =>
          match hexEscape r₂ with
          | .error f => .error f
          | .ok q =>
            if isLowSurrogate q.value then
              .ok ⟨Char.ofNat (0x10000 + (p.value - 0xD800) * 0x400 + (q.value - 0xDC00)), q.rest, by
                have hp := p.shorter
                have hq := q.shorter
                rw [hr] at hp
                simp at hp
                omega⟩
            else .error (faultAt .loneSurrogate q.rest)
        | r₁ => .error (faultPast .surrogateWithoutPartner r₁)
      | r => .error (faultPast .surrogateWithoutPartner r)

/-- The character of an escape with one letter. -/
def letterEscape? : Char → Option Char
  | '"' => some '"'
  | '\\' => some '\\'
  | '/' => some '/'
  | 'b' => some '\x08'
  | 'f' => some '\x0C'
  | 'n' => some '\n'
  | 'r' => some '\r'
  | 't' => some '\t'
  | _ => none

/-- Reads a string behind its opening quote. The characters read so far come in reverse; a string
with stray bytes is refused at its closing quote. -/
def stringBody {bound : Nat} (done : List Char) (sound : Bool) (s : List Glyph) (h : s.length ≤ bound) :
    Reading String bound :=
  match s with
  | [] => .error (faultAt .endInString [])
  | .stray _ :: r => stringBody done false r (length_le_of_cons_le h)
  | .char c :: r =>
    if c = '"' then
      if sound then .ok ⟨String.ofList done.reverse, r, length_lt_of_cons_le h⟩
      else .error (faultAt .brokenCharacter (.char c :: r))
    else if c = '\\' then
      match r with
      | [] => .error (faultAt .endInString [])
      | .char 'u' :: r₁ =>
        match unicodeEscape r₁ with
        | .error f => .error f
        | .ok p =>
          stringBody (p.value :: done) sound p.rest
            (Nat.le_trans (Nat.le_of_lt p.shorter) (length_le_of_cons_le (length_le_of_cons_le h)))
      | .char e :: r₁ =>
        match letterEscape? e with
        | some c => stringBody (c :: done) sound r₁ (length_le_of_cons_le (length_le_of_cons_le h))
        | none => .error (faultPast .unknownEscape (.char e :: r₁))
      | .stray b :: r₁ => .error (faultPast .unknownEscape (.stray b :: r₁))
    else if c.toNat < 0x20 then .error (faultAt .rawControl r)
    else stringBody (c :: done) sound r (length_le_of_cons_le h)
termination_by s.length
decreasing_by
  · exact length_lt_cons _ _
  · exact Nat.lt_trans p.shorter (Nat.lt_succ_of_lt (length_lt_cons _ _))
  · exact Nat.lt_succ_of_lt (length_lt_cons _ _)
  · exact length_lt_cons _ _

end CodeGate.Json
