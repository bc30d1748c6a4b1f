import CodeGate.Proofs.Json.Grammar
import Mathlib.Data.Nat.Init

/-!
# Numbers are read locally

A reader of numbers takes characters of numbers only, and it takes the same ones before any glyphs at
which no number could go on. So a number is a text of its own, whatever stands behind it.
-/

namespace CodeGate.Json

open CodeGate.Text

variable {α : Type} {bound : Nat} {g rest : List Glyph} {n : Number} {negative : Bool} {sig : Significand}

theorem yields_ok {a b : α} {r : List Glyph} {h : r.length < bound} :
    Yields (.ok ⟨a, r, h⟩) b rest ↔ b = a ∧ rest = r := by
  constructor
  · rintro ⟨p, e, rfl, rfl⟩
    cases e
    exact ⟨rfl, rfl⟩
  · rintro ⟨rfl, rfl⟩
    exact ⟨_, rfl, rfl, rfl⟩

theorem not_yields_error {a : α} {f : Fault} : ¬Yields (.error f : Reading α bound) a rest := by
  rintro ⟨p, e, -⟩
  cases e

/-! ## Where numbers end -/

/-- A character that a number may hold. -/
def Numeric (c : Char) : Prop := c.isDigit = true ∨ c ∈ ['.', 'e', 'E', '+', '-']

/-- Glyphs that do not start with a digit. -/
def NoDigit (rest : List Glyph) : Prop := ∀ g ∈ rest.head?, digit? g = none

/-- Glyphs at which no number could go on. -/
structure Ends (rest : List Glyph) : Prop where
  noDigit : NoDigit rest
  noPoint : rest.head? ≠ some (.char '.')
  noSmall : rest.head? ≠ some (.char 'e')
  noLarge : rest.head? ≠ some (.char 'E')

theorem ends_nil : Ends [] := ⟨by simp [NoDigit], by simp, by simp, by simp⟩

/-- A digit is a character that counts. -/
theorem digit?_eq_some {g : Glyph} {d : Nat} (h : digit? g = some d) :
    ∃ c : Char, g = .char c ∧ c.isDigit = true := by
  cases g with
  | stray b => cases h
  | char c =>
    cases isDigit : c.isDigit with
    | true => exact ⟨c, rfl, isDigit⟩
    | false => simp [digit?, isDigit] at h

/-! ## Digits -/

theorem spanDigits_cons {g : Glyph} {d : Nat} {s : List Glyph} (h : digit? g = some d) :
    spanDigits (g :: s) = (d :: (spanDigits s).1, (spanDigits s).2) := by
  simp [spanDigits, h]

theorem spanDigits_of_noDigit (h : NoDigit rest) : spanDigits rest = ([], rest) := by
  cases rest with
  | nil => rfl
  | cons g s => simp [spanDigits, h g rfl]

theorem noDigit_spanDigits (g : List Glyph) : NoDigit (spanDigits g).2 := by
  induction g with
  | nil => simp [spanDigits, NoDigit]
  | cons x s ih =>
    cases h : digit? x with
    | none => simp [spanDigits, h, NoDigit]
    | some d => rw [spanDigits_cons h]; exact ih

/-- What the characters in front start with is no digit, nor is what stands there if there are none. -/
theorem NoDigit.front {a : List Char} {after : List Glyph} (h : NoDigit (a.map Glyph.char ++ rest))
    (ends : NoDigit after) : NoDigit (a.map Glyph.char ++ after) := by
  cases a with
  | nil => exact ends
  | cons c a => exact h

/-- The digits at the front are the same before any end. -/
theorem spanDigits_local (g : List Glyph) :
    ∃ a : List Char, g = a.map .char ++ (spanDigits g).2 ∧ (∀ c ∈ a, c.isDigit = true) ∧
      ∀ rest, NoDigit rest → spanDigits (a.map .char ++ rest) = ((spanDigits g).1, rest) := by
  induction g with
  | nil => exact ⟨[], rfl, by simp, fun rest ends => spanDigits_of_noDigit ends⟩
  | cons x s ih =>
    cases h : digit? x with
    | none =>
      have stops : spanDigits (x :: s) = ([], x :: s) := by simp [spanDigits, h]
      rw [stops]
      exact ⟨[], rfl, by simp, fun rest ends => spanDigits_of_noDigit ends⟩
    | some d =>
      obtain ⟨a, split, digits, same⟩ := ih
      obtain ⟨c, rfl, isDigit⟩ := digit?_eq_some h
      refine ⟨c :: a, ?_, ?_, fun rest ends => ?_⟩
      · rw [spanDigits_cons h, List.map_cons, List.cons_append, ← split]
      · exact List.forall_mem_cons.2 ⟨isDigit, digits⟩
      · rw [List.map_cons, List.cons_append, spanDigits_cons h, same rest ends, spanDigits_cons h]

/-- The digits of an exponent are the same before any end, and before anything at all once the exponent is
too large. -/
theorem exponentDigits_local (e : Nat) (g : List Glyph) :
    ∃ a : List Char, g = a.map .char ++ (exponentDigits e g).2.2 ∧ (∀ c ∈ a, c.isDigit = true) ∧
      ∀ rest, ((exponentDigits e g).2.1 = false → Ends rest) →
        exponentDigits e (a.map .char ++ rest) = ((exponentDigits e g).1, (exponentDigits e g).2.1, rest) := by
  have stop : ∀ (e : Nat) (rest : List Glyph), Ends rest → exponentDigits e rest = (e, false, rest) := by
    intro e rest ends
    cases rest with
    | nil => rfl
    | cons g s => simp [exponentDigits, ends.noDigit g rfl]
  induction g generalizing e with
  | nil => exact ⟨[], rfl, by simp, fun rest ends => stop e rest (ends rfl)⟩
  | cons x s ih =>
    cases h : digit? x with
    | none =>
      have stops : exponentDigits e (x :: s) = (e, false, x :: s) := by simp [exponentDigits, h]
      rw [stops]
      exact ⟨[], rfl, by simp, fun rest ends => stop e rest (ends rfl)⟩
    | some d =>
      obtain ⟨c, rfl, isDigit⟩ := digit?_eq_some h
      by_cases passes : exponentLimit ≤ e * 10 + d
      · have step : ∀ s, exponentDigits e (.char c :: s) = (e, true, s) := by simp [exponentDigits, h, passes]
        rw [step]
        exact ⟨[c], rfl, by simpa using isDigit, fun rest _ => step rest⟩
      · have step : ∀ s, exponentDigits e (.char c :: s) = exponentDigits (e * 10 + d) s := by
          simp [exponentDigits, h, passes]
        obtain ⟨a, split, digits, same⟩ := ih (e * 10 + d)
        rw [step]
        refine ⟨c :: a, ?_, List.forall_mem_cons.2 ⟨isDigit, digits⟩, fun rest ends => ?_⟩
        · rw [List.map_cons, List.cons_append, ← split]
        · rw [List.map_cons, List.cons_append, step, same rest ends]

/-- A sign in front of an exponent is the same whatever follows. -/
theorem exponentSign_local {s r : List Glyph} {x : Glyph} (h : (exponentSign s).2 = x :: r)
    (digit : (digit? x).isSome) :
    ∃ a : List Char, s = a.map .char ++ x :: r ∧ (∀ c ∈ a, c = '+' ∨ c = '-') ∧
      ∀ rest, exponentSign (a.map .char ++ x :: rest) = ((exponentSign s).1, x :: rest) := by
  unfold exponentSign at h ⊢
  split at h
  · exact ⟨['+'], by rw [← h]; rfl, by simp, fun rest => rfl⟩
  · exact ⟨['-'], by rw [← h]; rfl, by simp, fun rest => rfl⟩
  · next plus minus =>
    refine ⟨[], h, by simp, fun rest => ?_⟩
    simp only [List.map_nil, List.nil_append]
    split
    · next e => cases e; cases digit
    · next e => cases e; cases digit
    · simp

/-! ## The parts of a number -/

/-- The number of a significand. -/
def floatValue? (negative : Bool) (sig : Significand) : Option Number :=
  (timesPowerOfTen? (Binary64.ofNat sig.value) sig.exponent).map fun x =>
    .float (if negative then x.neg else x)

theorem yields_floatOf {r : List Glyph} {h : r.length < bound} :
    Yields (floatOf negative sig r h) n rest ↔ floatValue? negative sig = some n ∧ rest = r := by
  unfold floatOf floatValue?
  cases timesPowerOfTen? (Binary64.ofNat sig.value) sig.exponent with
  | none => simp [not_yields_error]
  | some x => simp [yields_ok, eq_comm]

/-- The number of a significand with an exponent behind it; one that passed the limit makes a zero or
nothing. -/
def exponentValue? (negative : Bool) (sig : Significand) (minus : Bool) (e : Nat) (passed : Bool) :
    Option Number :=
  if passed then
    if sig.value ≠ 0 ∧ !minus then none else some (.float ⟨negative, 0, -1074⟩)
  else
    floatValue? negative
      { sig with exponent := clampExponent (if minus then sig.exponent - e else sig.exponent + e) }

/-- What follows the letter of an exponent: a sign or none, a digit, and the digits up to the limit; behind
the limit the other digits count for nothing. -/
theorem yields_exponentPart {s : List Glyph} {h : s.length < bound} :
    Yields (exponentPart negative sig s h) n rest ↔
      ∃ x r d, (exponentSign s).2 = x :: r ∧ digit? x = some d ∧
        exponentValue? negative sig (exponentSign s).1 (exponentDigits d r).1 (exponentDigits d r).2.1 =
          some n ∧
        rest = if (exponentDigits d r).2.1 then (spanDigits (exponentDigits d r).2.2).2
          else (exponentDigits d r).2.2 := by
  unfold exponentPart
  split
  · next hs => simp [hs, not_yields_error]
  · next x r hs =>
    split
    · next hx => simp [hs, hx, not_yields_error]
    · next d hx =>
      simp only [hs, List.cons.injEq]
      have found : ∀ {P : Glyph → List Glyph → Nat → Prop},
          (∃ x' r' d', (x = x' ∧ r = r') ∧ digit? x' = some d' ∧ P x' r' d') ↔ P x r d := by
        intro P
        constructor
        · rintro ⟨_, _, d', ⟨rfl, rfl⟩, hd, p⟩
          obtain rfl : d = d' := Option.some.inj (hx.symm.trans hd)
          exact p
        · exact fun p => ⟨x, r, d, ⟨rfl, rfl⟩, hx, p⟩
      rw [found]
      unfold exponentValue?
      split
      · split
        · simp only [not_yields_error, reduceCtorEq, false_and]
        · rw [yields_ok, Option.some.injEq, eq_comm]
      · rw [yields_floatOf]

/-- A reader takes the characters `a` in front of `rest`, and it would take the same before any end. -/
def Takes (read : (bound : Nat) → (s : List Glyph) → s.length < bound → Reading Number bound) (n : Number)
    (s rest : List Glyph) : Prop :=
  ∃ a : List Char, s = a.map Glyph.char ++ rest ∧ (∀ c ∈ a, Numeric c) ∧
    ∀ after, Ends after → ∀ (bound : Nat) (h : (a.map Glyph.char ++ after).length < bound),
      Yields (read bound _ h) n after

theorem numeric_of_digits {a : List Char} (h : ∀ c ∈ a, c.isDigit = true) : ∀ c ∈ a, Numeric c :=
  fun c hc => .inl (h c hc)

/-- The digits behind the limit are skipped, and they are the same before any end. -/
theorem uncounted_local {passed : Bool} (e : rest = if passed then (spanDigits g).2 else g) :
    ∃ a : List Char, g = a.map .char ++ rest ∧ (∀ c ∈ a, c.isDigit = true) ∧
      ∀ after, Ends after → (passed = false → Ends (a.map Glyph.char ++ after)) ∧
        after = if passed then (spanDigits (a.map Glyph.char ++ after)).2 else a.map Glyph.char ++ after := by
  cases passed with
  | true =>
    obtain ⟨a, split, digits, same⟩ := spanDigits_local g
    rw [e, if_pos rfl]
    exact ⟨a, split, digits, fun after ends => ⟨nofun, by rw [if_pos rfl, same after ends.noDigit]⟩⟩
  | false =>
    rw [e, if_neg nofun]
    exact ⟨[], rfl, by simp, fun after ends => ⟨fun _ => ends, by rw [if_neg nofun]; rfl⟩⟩

theorem takes_exponentPart {s : List Glyph} {h : s.length < bound}
    (found : Yields (exponentPart negative sig s h) n rest) :
    Takes (fun _ => exponentPart negative sig) n s rest := by
  obtain ⟨x, r, d, sign, digit, value, e⟩ := yields_exponentPart.1 found
  obtain ⟨c, rfl, isDigit⟩ := digit?_eq_some digit
  obtain ⟨a, hs, signs, sameSign⟩ := exponentSign_local sign (by simp [digit])
  obtain ⟨b, hr, digits, sameDigits⟩ := exponentDigits_local d r
  have numericSigns : ∀ c ∈ a, Numeric c := by
    intro c hc
    rcases signs c hc with rfl | rfl <;> exact .inr (by decide)
  obtain ⟨b', hr', digits', skip⟩ := uncounted_local e
  refine ⟨a ++ c :: (b ++ b'), ?_, ?_, fun after ends bound h => ?_⟩
  · rw [hs, hr, hr']
    simp
  · simp only [List.forall_mem_append, List.forall_mem_cons]
    exact ⟨numericSigns, .inl isDigit, numeric_of_digits digits, numeric_of_digits digits'⟩
  · obtain ⟨ends', skipped⟩ := skip after ends
    have regroup : (a ++ c :: (b ++ b')).map Glyph.char ++ after =
        a.map .char ++ .char c :: (b.map .char ++ (b'.map .char ++ after)) := by simp
    refine yields_exponentPart.2 ⟨.char c, b.map .char ++ (b'.map .char ++ after), d, ?_, digit, ?_, ?_⟩
    · rw [regroup, sameSign]
    · rw [regroup, sameSign, sameDigits _ ends']
      exact value
    · rw [sameDigits _ ends']
      exact skipped

/-- What may follow the digits of a fraction: an exponent or none. -/
def exponentTail {bound : Nat} (negative : Bool) (sig : Significand) (s : List Glyph) (h : s.length < bound) :
    Reading Number bound :=
  match s with
  | [] => floatOf negative sig [] h
  | g :: more =>
    if g = .char 'e' ∨ g = .char 'E' then exponentPart negative sig more (length_lt_of_cons_lt h)
    else floatOf negative sig (g :: more) h

theorem Takes.cons {read read' : (bound : Nat) → (s : List Glyph) → s.length < bound → Reading Number bound}
    {s : List Glyph} {c : Char} (taken : Takes read n s rest) (numeric : Numeric c)
    (step : ∀ (bound : Nat) (s : List Glyph) (h : (Glyph.char c :: s).length < bound),
      read' bound (.char c :: s) h = read bound s (Nat.lt_of_succ_lt h)) :
    Takes read' n (.char c :: s) rest := by
  obtain ⟨a, hs, numerics, same⟩ := taken
  refine ⟨c :: a, by rw [hs]; rfl, List.forall_mem_cons.2 ⟨numeric, numerics⟩, fun after ends bound h => ?_⟩
  have taken := same after ends bound (Nat.lt_of_succ_lt h)
  rw [← step] at taken
  exact taken

theorem exponentTail_eq_floatOf {s : List Glyph} {h : s.length < bound} (noSmall : s.head? ≠ some (.char 'e'))
    (noLarge : s.head? ≠ some (.char 'E')) : exponentTail negative sig s h = floatOf negative sig s h := by
  cases s with
  | nil => rfl
  | cons g more =>
    refine if_neg ?_
    rintro (rfl | rfl)
    · exact noSmall rfl
    · exact noLarge rfl

theorem takes_exponentTail_of_floatOf {s : List Glyph} {h : s.length < bound}
    (found : Yields (floatOf negative sig s h) n rest) :
    Takes (fun _ => exponentTail negative sig) n s rest := by
  obtain ⟨value, rfl⟩ := yields_floatOf.1 found
  refine ⟨[], rfl, by simp, fun after ends bound h => ?_⟩
  rw [List.map_nil, List.nil_append] at h
  show Yields (exponentTail negative sig after h) n after
  rw [exponentTail_eq_floatOf ends.noSmall ends.noLarge]
  exact yields_floatOf.2 ⟨value, rfl⟩

theorem takes_exponentTail {s : List Glyph} {h : s.length < bound}
    (found : Yields (exponentTail negative sig s h) n rest) :
    Takes (fun _ => exponentTail negative sig) n s rest := by
  cases s with
  | nil => exact takes_exponentTail_of_floatOf found
  | cons g more =>
    rw [exponentTail] at found
    split at found
    · next mark =>
      rcases mark with rfl | rfl
      · exact (takes_exponentPart found).cons (.inr (by decide)) fun bound s h => rfl
      · exact (takes_exponentPart found).cons (.inr (by decide)) fun bound s h => rfl
    · exact takes_exponentTail_of_floatOf found

/-- The number of a significand with neither fraction nor exponent. -/
def wholeValue? (negative : Bool) (sig : Significand) : Option Number :=
  if sig.full then floatValue? negative sig
  else if !negative then some (.integer sig.value)
  else if sig.value = 0 ∨ Word.half < sig.value then some (.float (Binary64.ofNat sig.value).neg)
  else some (.integer (-sig.value))

theorem yields_numberTail_whole {s : List Glyph} {h : s.length < bound} (noPoint : s.head? ≠ some (.char '.'))
    (noSmall : s.head? ≠ some (.char 'e')) (noLarge : s.head? ≠ some (.char 'E')) :
    Yields (numberTail negative sig s h) n rest ↔ wholeValue? negative sig = some n ∧ rest = s := by
  unfold numberTail wholeValue?
  split
  · exact absurd rfl noPoint
  · exact absurd rfl noSmall
  · exact absurd rfl noLarge
  · split
    · exact yields_floatOf
    · split
      · rw [yields_ok, Option.some.injEq, eq_comm]
      · split <;> rw [yields_ok, Option.some.injEq, eq_comm]

/-- The significand with the digits behind the point. -/
def withFraction (sig : Significand) (ds : List Nat) : Significand :=
  ds.foldl Significand.pushFraction { sig with full := false }

theorem yields_numberTail_point {r : List Glyph} {h : (Glyph.char '.' :: r).length < bound} :
    Yields (numberTail negative sig (.char '.' :: r) h) n rest ↔
      (spanDigits r).1 ≠ [] ∧ ∃ h' : (spanDigits r).2.length < bound,
        Yields (exponentTail negative (withFraction sig (spanDigits r).1) (spanDigits r).2 h') n rest := by
  have shorter : (spanDigits r).2.length < bound :=
    Nat.lt_of_le_of_lt (length_spanDigits_le r) (Nat.lt_of_succ_lt h)
  simp only [numberTail]
  rw [exists_prop_of_true shorter]
  split
  · next hd => simp [hd, not_yields_error]
  · next ds rest' notNil hd =>
    have some : ds ≠ [] := fun empty => notNil empty
    simp only [hd, ne_eq, some, not_false_eq_true, true_and]
    split
    · rfl
    · rfl
    · next noSmall noLarge =>
      rw [exponentTail_eq_floatOf]
      · rfl
      · intro small
        obtain ⟨more, rfl⟩ := List.head?_eq_some_iff.1 small
        exact noSmall _ hd (by rw [hd] at shorter; exact shorter) rfl HEq.rfl HEq.rfl
      · intro large
        obtain ⟨more, rfl⟩ := List.head?_eq_some_iff.1 large
        exact noLarge _ hd (by rw [hd] at shorter; exact shorter) rfl HEq.rfl HEq.rfl

theorem takes_numberTail_point {r : List Glyph} {h : (Glyph.char '.' :: r).length < bound}
    (found : Yields (numberTail negative sig (.char '.' :: r) h) n rest) :
    Takes (fun _ => numberTail negative sig) n (.char '.' :: r) rest := by
  obtain ⟨digits, shorter, found⟩ := yields_numberTail_point.1 found
  obtain ⟨a, hr, numerics, same⟩ := spanDigits_local r
  obtain ⟨b, hr', numerics', same'⟩ := takes_exponentTail found
  have before := noDigit_spanDigits r
  rw [hr'] at before
  refine ⟨'.' :: (a ++ b), ?_, ?_, fun after ends bound h => ?_⟩
  · rw [hr, hr']
    simp
  · simp only [List.forall_mem_append, List.forall_mem_cons]
    exact ⟨.inr (by decide), numeric_of_digits numerics, numerics'⟩
  · have regroup : ('.' :: (a ++ b)).map Glyph.char ++ after =
        .char '.' :: (a.map .char ++ (b.map .char ++ after)) := by simp
    have taken := same _ (before.front ends.noDigit)
    have shorter : (b.map Glyph.char ++ after).length < bound := by
      rw [regroup] at h
      simp only [List.length_cons, List.length_append] at h ⊢
      omega
    revert h
    rw [regroup]
    intro h
    refine yields_numberTail_point.2 ?_
    rw [taken]
    exact ⟨digits, shorter, same' after ends bound shorter⟩

theorem takes_numberTail {s : List Glyph} {h : s.length < bound}
    (found : Yields (numberTail negative sig s h) n rest) :
    Takes (fun _ => numberTail negative sig) n s rest := by
  by_cases point : s.head? = some (.char '.')
  · obtain ⟨r, rfl⟩ := List.head?_eq_some_iff.1 point
    exact takes_numberTail_point found
  by_cases small : s.head? = some (.char 'e')
  · obtain ⟨r, rfl⟩ := List.head?_eq_some_iff.1 small
    have found : Yields (exponentPart negative sig r (Nat.lt_of_succ_lt h)) n rest := found
    exact (takes_exponentPart found).cons (.inr (by decide)) fun bound s h => rfl
  by_cases large : s.head? = some (.char 'E')
  · obtain ⟨r, rfl⟩ := List.head?_eq_some_iff.1 large
    have found : Yields (exponentPart negative sig r (Nat.lt_of_succ_lt h)) n rest := found
    exact (takes_exponentPart found).cons (.inr (by decide)) fun bound s h => rfl
  obtain ⟨value, rfl⟩ := (yields_numberTail_whole point small large).1 found
  refine ⟨[], rfl, by simp, fun after ends bound h => ?_⟩
  exact (yields_numberTail_whole ends.noPoint ends.noSmall ends.noLarge).2 ⟨value, rfl⟩

/-! ## Whole numbers -/

theorem yields_unsignedNumber_zero {x : Glyph} {r : List Glyph} (zero : digit? x = some 0) :
    Yields (unsignedNumber negative (x :: r)) n rest ↔
      NoDigit r ∧ Yields (numberTail negative ⟨0, 0, false⟩ r (length_lt_cons x r)) n rest := by
  unfold unsignedNumber
  simp only [zero]
  cases r with
  | nil => simp [NoDigit]
  | cons x' r' =>
    dsimp only
    split
    · next digit => simp [NoDigit, not_yields_error, Option.isSome_iff_ne_none.1 digit]
    · next noDigit =>
      have none : digit? x' = none := by simpa using noDigit
      simp [NoDigit, none]

theorem yields_unsignedNumber_digit {x : Glyph} {r : List Glyph} {d : Nat} (digit : digit? x = some d)
    (notZero : d ≠ 0) :
    Yields (unsignedNumber negative (x :: r)) n rest ↔
      Yields (numberTail negative ((spanDigits r).1.foldl Significand.pushWhole ⟨d, 0, false⟩) (spanDigits r).2
        (length_spanDigits_lt x r)) n rest := by
  obtain ⟨d, rfl⟩ := Nat.exists_eq_succ_of_ne_zero notZero
  unfold unsignedNumber
  simp only [digit]

/-- A number is taken as it stands, before any end. It starts with a digit. -/
theorem unsignedNumber_local {s : List Glyph} (found : Yields (unsignedNumber negative s) n rest) :
    ∃ c a, s = (c :: a).map Glyph.char ++ rest ∧ (∀ x ∈ c :: a, Numeric x) ∧ c.isDigit = true ∧
      ∀ after, Ends after → Yields (unsignedNumber negative ((c :: a).map Glyph.char ++ after)) n after := by
  cases s with
  | nil => exact absurd found not_yields_error
  | cons x r =>
    cases digit : digit? x with
    | none =>
      unfold unsignedNumber at found
      simp only [digit] at found
      exact absurd found not_yields_error
    | some d =>
      obtain ⟨c, rfl, isDigit⟩ := digit?_eq_some digit
      by_cases zero : d = 0
      · subst zero
        obtain ⟨noDigit, found⟩ := (yields_unsignedNumber_zero digit).1 found
        obtain ⟨a, rfl, numerics, same⟩ := takes_numberTail found
        refine ⟨c, a, rfl, List.forall_mem_cons.2 ⟨.inl isDigit, numerics⟩, isDigit, fun after ends => ?_⟩
        exact (yields_unsignedNumber_zero digit).2 ⟨noDigit.front ends.noDigit, same after ends _ _⟩
      · have found := (yields_unsignedNumber_digit digit zero).1 found
        obtain ⟨a, hr, digits, sameDigits⟩ := spanDigits_local r
        obtain ⟨b, hr', numerics, same⟩ := takes_numberTail found
        have before := noDigit_spanDigits r
        rw [hr'] at before
        refine ⟨c, a ++ b, ?_, ?_, isDigit, fun after ends => ?_⟩
        · rw [hr, hr']
          simp
        · simp only [List.forall_mem_append, List.forall_mem_cons]
          exact ⟨.inl isDigit, numeric_of_digits digits, numerics⟩
        · have regroup : (c :: (a ++ b)).map Glyph.char ++ after =
              .char c :: (a.map .char ++ (b.map .char ++ after)) := by simp
          rw [regroup, yields_unsignedNumber_digit digit zero]
          simp only [sameDigits _ (before.front ends.noDigit)]
          exact same after ends _ _

end CodeGate.Json
