import CodeGate.Proofs.Json.Numeral
import Mathlib.Data.Bool.AllAny

/-!
# Tokens in a text that was spread

A text is read after each of its angle brackets was put down in some harmless way, as itself or as an
entity: by ordinary characters of a string, the first of which starts nothing else. Readers of white space,
words, numbers and strings then find in it exactly what the text spells.
-/

namespace CodeGate.Json

open CodeGate.Text

/-! ## Spreading a text -/

/-- A character that stands in strings only. -/
def Outside (c : Char) : Prop := c ∈ ['<', '>', '&']

instance : DecidablePred Outside := fun _ => inferInstanceAs (Decidable (_ ∈ _))

/-- A harmless way to put characters down. -/
structure Quiet (put : Char → List Char) : Prop where
  kept : ∀ {c}, c ≠ '<' → c ≠ '>' → put c = [c]
  bracket : ∀ {c}, c = '<' ∨ c = '>' → ∃ x xs, put c = x :: xs ∧ Outside x ∧ ∀ y ∈ x :: xs, Ordinary y

/-- The glyphs of a text whose characters are put down one by one. -/
def spread (put : Char → List Char) (s : List Char) : List Glyph := (s.flatMap put).map .char

variable {put : Char → List Char} {s a : List Char} {c x : Char} {r rest : List Glyph} {bound : Nat}

theorem quiet_self : Quiet fun c => [c] where
  kept _ _ := rfl
  bracket := by
    rintro c (rfl | rfl) <;>
      exact ⟨_, [], rfl, by decide, by simpa using ⟨by decide, by decide, by decide⟩⟩

theorem spread_cons (c : Char) (s : List Char) : spread put (c :: s) = (put c).map .char ++ spread put s := by
  simp [spread]

section Quiet

variable (quiet : Quiet put)
include quiet

theorem Quiet.spread_kept (h : ¬Outside c) (s : List Char) :
    spread put (c :: s) = .char c :: spread put s := by
  rw [spread_cons, quiet.kept]
  · rfl
  · rintro rfl; exact h (by decide)
  · rintro rfl; exact h (by decide)

theorem Quiet.spread_inside (h : ∀ c ∈ a, ¬Outside c) (s : List Char) :
    spread put (a ++ s) = a.map .char ++ spread put s := by
  induction a with
  | nil => rfl
  | cons c a ih =>
    obtain ⟨here, later⟩ := List.forall_mem_cons.1 h
    rw [List.cons_append, quiet.spread_kept here, ih later]
    rfl

/-- What stands in front and is no bracket was in front already. -/
theorem Quiet.of_spread_cons (e : spread put s = .char x :: r) (h : ¬Outside x) :
    ∃ s', s = x :: s' ∧ r = spread put s' := by
  cases s with
  | nil => cases e
  | cons c s =>
    by_cases bracket : c = '<' ∨ c = '>'
    · obtain ⟨y, ys, hy, outside, -⟩ := quiet.bracket bracket
      rw [spread_cons, hy] at e
      obtain ⟨first, -⟩ := List.cons.inj e
      exact absurd (Glyph.char.inj first ▸ outside) h
    · obtain ⟨less, greater⟩ := not_or.1 bracket
      rw [spread_cons, quiet.kept less greater] at e
      obtain ⟨first, rest⟩ := List.cons.inj e
      exact ⟨s, by rw [Glyph.char.inj first], rest.symm⟩

theorem Quiet.of_spread_append (e : spread put s = a.map .char ++ r) (h : ∀ c ∈ a, ¬Outside c) :
    ∃ s', s = a ++ s' ∧ r = spread put s' := by
  induction a generalizing s with
  | nil => exact ⟨s, rfl, e.symm⟩
  | cons c a ih =>
    obtain ⟨here, later⟩ := List.forall_mem_cons.1 h
    obtain ⟨s', rfl, rest⟩ := quiet.of_spread_cons e here
    obtain ⟨s'', rfl, rest'⟩ := ih rest.symm later
    exact ⟨s'', rfl, rest'⟩

/-- Ordinary characters are put down as ordinary ones. -/
theorem Quiet.ordinary (h : Ordinary c) : ∀ y ∈ put c, Ordinary y := by
  by_cases bracket : c = '<' ∨ c = '>'
  · obtain ⟨y, ys, hy, -, ordinary⟩ := quiet.bracket bracket
    rwa [hy]
  · obtain ⟨less, greater⟩ := not_or.1 bracket
    rw [quiet.kept less greater]
    simpa using h

theorem Quiet.spread_eq_nil (h : spread put s = []) : s = [] := by
  cases s with
  | nil => rfl
  | cons c s =>
    rw [spread_cons] at h
    by_cases bracket : c = '<' ∨ c = '>'
    · obtain ⟨y, ys, hy, -⟩ := quiet.bracket bracket
      rw [hy] at h
      cases h
    · obtain ⟨less, greater⟩ := not_or.1 bracket
      rw [quiet.kept less greater] at h
      cases h

end Quiet

/-! ## White space -/

theorem isSpace_char_iff : isSpace (.char c) = true ↔ c ∈ [' ', '\n', '\t', '\r'] := by
  simp [isSpace, or_assoc]

theorem not_outside_of_blank (h : c ∈ [' ', '\n', '\t', '\r']) : ¬Outside c := by
  have all : ∀ x ∈ [' ', '\n', '\t', '\r'], ¬Outside x := List.all_iff_forall_prop.1 (by decide)
  exact all c h

/-- A text that does not start with white space. -/
def Solid (s : List Char) : Prop := ∀ c ∈ s.head?, c ∉ [' ', '\n', '\t', '\r']

theorem Quiet.skipSpace_blank (quiet : Quiet put) {b : List Char} (h : Blank b) (s : List Char) :
    skipSpace (spread put (b ++ s)) = skipSpace (spread put s) := by
  rw [quiet.spread_inside fun c hc => not_outside_of_blank (h c hc), skipSpace]
  refine List.dropWhile_append_of_pos fun g hg => ?_
  obtain ⟨c, hc, rfl⟩ := List.mem_map.1 hg
  exact isSpace_char_iff.2 (h c hc)

theorem Quiet.skipSpace_solid (quiet : Quiet put) (h : Solid s) :
    skipSpace (spread put s) = spread put s := by
  cases s with
  | nil => rfl
  | cons c s =>
    have notBlank : c ∉ [' ', '\n', '\t', '\r'] := h c rfl
    obtain ⟨y, ys, hy, solid⟩ : ∃ y ys, put c = y :: ys ∧ y ∉ [' ', '\n', '\t', '\r'] := by
      by_cases bracket : c = '<' ∨ c = '>'
      · obtain ⟨y, ys, hy, outside, -⟩ := quiet.bracket bracket
        exact ⟨y, ys, hy, fun blank => not_outside_of_blank blank outside⟩
      · obtain ⟨less, greater⟩ := not_or.1 bracket
        exact ⟨c, [], quiet.kept less greater, notBlank⟩
    rw [spread_cons, hy, List.map_cons, List.cons_append, skipSpace,
      List.dropWhile_cons_of_neg (by rwa [isSpace_char_iff])]

/-- White space in front is skipped, and nothing else. -/
theorem Quiet.skipSpace_spread (quiet : Quiet put) (s : List Char) :
    ∃ b s', s = b ++ s' ∧ Blank b ∧ Solid s' ∧ skipSpace (spread put s) = spread put s' := by
  induction s with
  | nil => exact ⟨[], [], rfl, by simp [Blank], by simp [Solid], rfl⟩
  | cons c s ih =>
    by_cases blank : c ∈ [' ', '\n', '\t', '\r']
    · obtain ⟨b, s', rfl, hb, solid, skipped⟩ := ih
      have all : Blank (c :: b) := List.forall_mem_cons.2 ⟨blank, hb⟩
      refine ⟨c :: b, s', rfl, all, solid, ?_⟩
      rw [← List.cons_append, quiet.skipSpace_blank all, quiet.skipSpace_solid solid]
    · have solid : Solid (c :: s) := by simpa [Solid] using blank
      exact ⟨[], c :: s, rfl, by simp [Blank], solid, quiet.skipSpace_solid solid⟩

/-! ## Words -/

theorem yields_word {letters : List Char} {g : List Glyph} {h : g.length < bound} :
    Yields (word letters g h) () rest ↔ g = letters.map .char ++ rest := by
  induction letters generalizing g with
  | nil => simp [word, yields_ok, eq_comm]
  | cons c letters ih =>
    cases g with
    | nil => simp [word, not_yields_error]
    | cons x g =>
      rw [word]
      split
      · next here => simp [ih, here]
      · next other => simp [not_yields_error, other]

/-! ## Escapes -/

theorem exists_of_hexDigit? {g : Glyph} {n : Nat} (h : hexDigit? g = some n) :
    ∃ c, g = .char c ∧ ¬Outside c := by
  cases g with
  | stray b => cases h
  | char c =>
    have none : ∀ c ∈ ['<', '>', '&'], hexDigit? (.char c) = none :=
      List.all_iff_forall_prop.1 (by decide)
    refine ⟨c, rfl, fun outside => ?_⟩
    rw [none c outside] at h
    cases h

theorem exists_of_hexFour? {a b c d : Glyph} {n : Nat} (h : hexFour? a b c d = some n) :
    ∃ x y z w, [a, b, c, d] = [.char x, .char y, .char z, .char w] ∧ ∀ v ∈ [x, y, z, w], ¬Outside v := by
  obtain ⟨_, ha, h⟩ := Option.bind_eq_some_iff.1 h
  obtain ⟨_, hb, h⟩ := Option.bind_eq_some_iff.1 h
  obtain ⟨_, hc, h⟩ := Option.bind_eq_some_iff.1 h
  obtain ⟨_, hd, -⟩ := Option.bind_eq_some_iff.1 h
  obtain ⟨x, rfl, hx⟩ := exists_of_hexDigit? ha
  obtain ⟨y, rfl, hy⟩ := exists_of_hexDigit? hb
  obtain ⟨z, rfl, hz⟩ := exists_of_hexDigit? hc
  obtain ⟨w, rfl, hw⟩ := exists_of_hexDigit? hd
  exact ⟨x, y, z, w, rfl, by simp [hx, hy, hz, hw]⟩

theorem Hex.inside {s : List Char} {n : Nat} (h : Hex s n) : ∀ x ∈ s, ¬Outside x := by
  cases h with
  | four number =>
    obtain ⟨x, y, z, w, same, inside⟩ := exists_of_hexFour? number
    cases same
    exact inside

/-- An escape by number is four digits, and they are all that is taken. -/
theorem yields_hexEscape {g : List Glyph} {n : Nat} :
    Yields (hexEscape g) n rest ↔ ∃ s, Hex s n ∧ g = s.map .char ++ rest := by
  constructor
  · intro found
    unfold hexEscape at found
    split at found
    · split at found
      · next number =>
        obtain ⟨rfl, rfl⟩ := yields_ok.1 found
        obtain ⟨x, y, z, w, same, -⟩ := exists_of_hexFour? number
        cases same
        exact ⟨[x, y, z, w], .four number, rfl⟩
      · exact absurd found not_yields_error
    · exact absurd found not_yields_error
  · rintro ⟨s, @⟨a, b, c, d, _, number⟩, rfl⟩
    show Yields (hexEscape (.char a :: .char b :: .char c :: .char d :: rest)) n rest
    unfold hexEscape
    dsimp only
    split
    · next found =>
      obtain rfl := Option.some.inj (number.symm.trans found)
      exact yields_ok.2 ⟨rfl, rfl⟩
    · next none =>
      rw [number] at none
      cases none

theorem isLowSurrogate_of_high {n : Nat} (h : isHighSurrogate n = true) : isLowSurrogate n = false := by
  simp only [isHighSurrogate, isLowSurrogate, Bool.and_eq_true, decide_eq_true_eq, Bool.and_eq_false_iff,
    decide_eq_false_iff_not] at h ⊢
  omega

theorem yields_unicodeEscape_number {a : List Char} {n : Nat} (digits : Hex a n)
    (notLow : isLowSurrogate n = false) (notHigh : isHighSurrogate n = false) :
    Yields (unicodeEscape (a.map .char ++ rest)) (Char.ofNat n) rest := by
  have found : Yields (hexEscape (a.map .char ++ rest)) n rest := yields_hexEscape.2 ⟨a, digits, rfl⟩
  obtain ⟨p, hex, value, behind⟩ := found
  unfold unicodeEscape
  simp only [hex, value, notLow, notHigh, Bool.not_false, if_true, Bool.false_eq_true, if_false]
  exact ⟨_, rfl, congrArg Char.ofNat value, behind⟩

theorem yields_unicodeEscape_pair {a b : List Char} {m n : Nat} (first : Hex a m)
    (high : isHighSurrogate m = true) (second : Hex b n) (low : isLowSurrogate n = true) :
    Yields (unicodeEscape (a.map .char ++ .char '\\' :: .char 'u' :: (b.map .char ++ rest)))
      (Char.ofNat (0x10000 + (m - 0xD800) * 0x400 + (n - 0xDC00))) rest := by
  have found : Yields (hexEscape (a.map .char ++ .char '\\' :: .char 'u' :: (b.map .char ++ rest))) m
    (.char '\\' :: .char 'u' :: (b.map .char ++ rest)) := yields_hexEscape.2 ⟨a, first, rfl⟩
  have found' : Yields (hexEscape (b.map .char ++ rest)) n rest := yields_hexEscape.2 ⟨b, second, rfl⟩
  obtain ⟨p, hex, value, behind⟩ := found
  obtain ⟨q, hex', value', behind'⟩ := found'
  unfold unicodeEscape
  simp only [hex, value, isLowSurrogate_of_high high, high, Bool.not_true, Bool.false_eq_true, if_false]
  split
  · next e => rw [behind] at e; cases e
  · next e =>
    rw [behind] at e
    cases e
    simp only [hex', value', low, if_true]
    exact yields_ok.2 ⟨rfl, behind'.symm⟩
  · next other => exact (other _ behind).elim

/-- An escape behind its `u`: a number, or two for the halves of a surrogate pair. -/
theorem yields_unicodeEscape {g : List Glyph} :
    Yields (unicodeEscape g) c rest ↔ ∃ a, Escaped ('u' :: a) c ∧ g = a.map .char ++ rest := by
  constructor
  · intro found
    unfold unicodeEscape at found
    split at found
    · exact absurd found not_yields_error
    · next p hex =>
      obtain ⟨s, digits, hg⟩ := yields_hexEscape.1 ⟨p, hex, rfl, rfl⟩
      split at found
      · exact absurd found not_yields_error
      · next notLow =>
        split at found
        · next notHigh =>
          obtain ⟨rfl, rfl⟩ := yields_ok.1 found
          exact ⟨s, .number digits (by simpa using notLow) (by simpa using notHigh), hg⟩
        · next high =>
          split at found
          · exact absurd found not_yields_error
          · next r₁ hr =>
            split at found
            · exact absurd found not_yields_error
            · next r₂ hr =>
              split at found
              · exact absurd found not_yields_error
              · next q hex' =>
                obtain ⟨t, digits', hr₂⟩ := yields_hexEscape.1 ⟨q, hex', rfl, rfl⟩
                split at found
                · next low =>
                  obtain ⟨value, behind⟩ := yields_ok.1 found
                  rw [value, behind]
                  have escaped := Escaped.pair digits (by simpa using high) digits' low
                  refine ⟨_, escaped, ?_⟩
                  rw [hg, hr]
                  simpa using hr₂
                · exact absurd found not_yields_error
            · exact absurd found not_yields_error
          · exact absurd found not_yields_error
  · rintro ⟨a, escaped, rfl⟩
    cases escaped with
    | letter stands => cases (show letterEscape? 'u' = none by decide) ▸ stands
    | number digits notLow notHigh => exact yields_unicodeEscape_number digits notLow notHigh
    | pair first high second low =>
      rw [List.map_append, List.append_assoc]
      exact yields_unicodeEscape_pair first high second low

/-- What stands behind a backslash is no bracket and no entity. -/
theorem Escaped.inside {a : List Char} (h : Escaped a c) : ∀ x ∈ a, ¬Outside x := by
  have u : ¬Outside 'u' := by decide
  cases h with
  | letter stands =>
    have none : ∀ l ∈ ['<', '>', '&'], letterEscape? l = none :=
      List.all_iff_forall_prop.1 (by decide)
    intro l hl outside
    obtain rfl := List.mem_singleton.1 hl
    rw [none l outside] at stands
    cases stands
  | number digits => exact List.forall_mem_cons.2 ⟨u, digits.inside⟩
  | pair first high second low =>
    have backslash : ¬Outside '\\' := by decide
    simp only [List.forall_mem_cons, List.forall_mem_append]
    exact ⟨u, first.inside, backslash, u, second.inside⟩

/-! ## Strings -/

section String

variable {done : List Char} {sound : Bool} {g : List Glyph} {text : String}

theorem stringBody_ordinary (h : Ordinary c) {fits : (Glyph.char c :: g).length ≤ bound} :
    stringBody done sound (.char c :: g) fits = stringBody (c :: done) sound g (length_le_of_cons_le fits) := by
  have noControl : ¬c.toNat < 0x20 := Nat.not_lt.2 h.noControl
  rw [stringBody.eq_def]
  simp only [h.noQuote, h.noEscape, noControl, if_false]

theorem stringBody_ordinaries {xs : List Char} (h : ∀ x ∈ xs, Ordinary x)
    {fits : (xs.map Glyph.char ++ g).length ≤ bound} :
    ∃ fits' : g.length ≤ bound,
      stringBody done true (xs.map .char ++ g) fits = stringBody (xs.reverse ++ done) true g fits' := by
  induction xs generalizing done with
  | nil => exact ⟨fits, rfl⟩
  | cons x xs ih =>
    obtain ⟨here, later⟩ := List.forall_mem_cons.1 h
    obtain ⟨fits', same⟩ := @ih (x :: done) later (length_le_of_cons_le fits)
    refine ⟨fits', (stringBody_ordinary here).trans (same.trans ?_)⟩
    rw [List.reverse_cons, List.append_assoc]
    rfl

theorem yields_stringBody_quote {fits : (Glyph.char '"' :: g).length ≤ bound} :
    Yields (stringBody done true (.char '"' :: g) fits) text rest ↔
      text = String.ofList done.reverse ∧ rest = g := by
  rw [stringBody.eq_def]
  exact yields_ok

theorem stringBody_letter {l : Char} (stands : letterEscape? l = some c)
    {fits : (Glyph.char '\\' :: .char l :: g).length ≤ bound} :
    stringBody done sound (.char '\\' :: .char l :: g) fits =
      stringBody (c :: done) sound g (length_le_of_cons_le (length_le_of_cons_le fits)) := by
  rw [stringBody.eq_def]
  dsimp only
  rw [if_neg (by decide), if_pos rfl]
  split
  · next e _ => cases e
  · next e _ =>
    cases e
    cases (show letterEscape? 'u' = none by decide).symm.trans stands
  · next e _ =>
    cases e
    split
    · next found => rw [Option.some.inj (stands.symm.trans found)]
    · next none => cases none.symm.trans stands
  · next e _ => cases e

theorem stringBody_unicode {g' : List Glyph} (escape : Yields (unicodeEscape g) c g')
    {fits : (Glyph.char '\\' :: .char 'u' :: g).length ≤ bound} {fits' : g'.length ≤ bound} :
    stringBody done sound (.char '\\' :: .char 'u' :: g) fits = stringBody (c :: done) sound g' fits' := by
  obtain ⟨p, escape, rfl, rfl⟩ := escape
  rw [stringBody.eq_def]
  dsimp only
  rw [if_neg (by decide), if_pos rfl]
  simp only [escape]

theorem yields_stringBody_escape {fits : (Glyph.char '\\' :: g).length ≤ bound} :
    Yields (stringBody done true (.char '\\' :: g) fits) text rest ↔
      ∃ a c g', Escaped a c ∧ g = a.map .char ++ g' ∧
        ∃ fits' : g'.length ≤ bound, Yields (stringBody (c :: done) true g' fits') text rest := by
  constructor
  · intro found
    rw [stringBody.eq_def] at found
    dsimp only at found
    rw [if_neg (by decide), if_pos rfl] at found
    split at found
    · exact absurd found not_yields_error
    · split at found
      · exact absurd found not_yields_error
      · next p escape =>
        obtain ⟨a, escaped, hr⟩ := yields_unicodeEscape.1 ⟨p, escape, rfl, rfl⟩
        refine ⟨_, _, p.rest, escaped, ?_, _, found⟩
        rw [List.map_cons, List.cons_append, ← hr]
    · split at found
      · next stands => exact ⟨[_], _, _, .letter stands, rfl, _, found⟩
      · exact absurd found not_yields_error
    · exact absurd found not_yields_error
  · rintro ⟨a, c, g', escaped, rfl, fits', found⟩
    have forms : (∃ l, a = [l] ∧ letterEscape? l = some c) ∨ ∃ a', a = 'u' :: a' := by
      cases escaped with
      | letter stands => exact .inl ⟨_, rfl, stands⟩
      | number digits => exact .inr ⟨_, rfl⟩
      | pair => exact .inr ⟨_, rfl⟩
    rcases forms with ⟨l, rfl, stands⟩ | ⟨a', rfl⟩
    · show Yields (stringBody done true (.char '\\' :: .char l :: g') fits) text rest
      rw [stringBody_letter stands]
      exact found
    · have escape : Yields (unicodeEscape (a'.map .char ++ g')) c g' :=
        yields_unicodeEscape.2 ⟨a', escaped, rfl⟩
      show Yields (stringBody done true (.char '\\' :: .char 'u' :: (a'.map .char ++ g')) fits) text rest
      rw [stringBody_unicode escape]
      exact found

theorem not_yields_stringBody_control (control : c.toNat < 0x20) {fits : (Glyph.char c :: g).length ≤ bound} :
    ¬Yields (stringBody done true (.char c :: g) fits) text rest := by
  have noQuote : c ≠ '"' := by rintro rfl; exact absurd control (by decide)
  have noEscape : c ≠ '\\' := by rintro rfl; exact absurd control (by decide)
  rw [stringBody.eq_def]
  simp only [noQuote, noEscape, control, if_false, if_true]
  exact not_yields_error

theorem not_outside_of_control (control : c.toNat < 0x20) : ¬Outside c := by
  simp only [Outside, List.mem_cons, List.not_mem_nil, or_false]
  rintro (rfl | rfl | rfl) <;> exact absurd control (by decide)

/-- What a reader of strings finds in a spread text is spelled there, up to a closing quote. -/
theorem Quiet.stringSpelled (quiet : Quiet put) {s done : List Char} {fits : (spread put s).length ≤ bound}
    (found : Yields (stringBody done true (spread put s) fits) text rest) :
    ∃ a marks s', s = a ++ '"' :: s' ∧ StringSpelled a marks ∧
      text = String.ofList (done.reverse ++ marks.flatMap (Mark.chars put)) ∧ rest = spread put s' := by
  match s with
  | [] =>
    rw [stringBody.eq_def] at found
    exact absurd found not_yields_error
  | c :: s =>
    have quote : ¬Outside '"' := by decide
    have backslash : ¬Outside '\\' := by decide
    by_cases closes : c = '"'
    · subst closes
      simp only [quiet.spread_kept quote] at found
      obtain ⟨rfl, rfl⟩ := yields_stringBody_quote.1 found
      exact ⟨[], [], s, rfl, .nil, by simp, rfl⟩
    by_cases escapes : c = '\\'
    · subst escapes
      simp only [quiet.spread_kept backslash] at found
      obtain ⟨a, c, g', escaped, behind, fits', found⟩ := yields_stringBody_escape.1 found
      obtain ⟨s', hs, rfl⟩ := quiet.of_spread_append behind escaped.inside
      have shorter : s'.length ≤ s.length := by rw [hs, List.length_append]; exact Nat.le_add_left _ _
      obtain ⟨b, marks, s'', rfl, spelled, rfl, rfl⟩ := Quiet.stringSpelled quiet found
      exact ⟨'\\' :: (a ++ b), .escape c :: marks, s'', by simp [hs], .escape escaped spelled,
        by simp [Mark.chars], rfl⟩
    by_cases control : c.toNat < 0x20
    · simp only [quiet.spread_kept (not_outside_of_control control)] at found
      exact absurd found (not_yields_stringBody_control control)
    · have ordinary : Ordinary c := ⟨closes, escapes, Nat.not_lt.1 control⟩
      simp only [spread_cons] at found
      obtain ⟨fits', same⟩ := stringBody_ordinaries (quiet.ordinary ordinary)
      rw [same] at found
      obtain ⟨b, marks, s', rfl, spelled, rfl, rfl⟩ := Quiet.stringSpelled quiet found
      exact ⟨c :: b, .plain c :: marks, s', rfl, .plain ordinary spelled, by simp [Mark.chars], rfl⟩
termination_by s.length
decreasing_by
  · exact Nat.lt_succ_of_le shorter
  · exact Nat.lt_succ_self _

/-- What is spelled up to a closing quote is found by a reader of strings. -/
theorem Quiet.yields_of_stringSpelled (quiet : Quiet put) {marks : List Mark} (spelled : StringSpelled a marks)
    {fits : (spread put (a ++ '"' :: s)).length ≤ bound} :
    Yields (stringBody done true (spread put (a ++ '"' :: s)) fits)
      (String.ofList (done.reverse ++ marks.flatMap (Mark.chars put))) (spread put s) := by
  induction spelled generalizing done with
  | nil =>
    have quote : ¬Outside '"' := by decide
    simp only [List.nil_append, quiet.spread_kept quote]
    exact yields_stringBody_quote.2 ⟨by simp, rfl⟩
  | @plain c a marks ordinary _ ih =>
    simp only [List.cons_append, spread_cons]
    obtain ⟨fits', same⟩ := stringBody_ordinaries (quiet.ordinary ordinary)
    have regroup : done.reverse ++ (Mark.plain c :: marks).flatMap (Mark.chars put) =
        ((put c).reverse ++ done).reverse ++ marks.flatMap (Mark.chars put) := by simp [Mark.chars]
    rw [same, regroup]
    exact ih
  | @escape b a c marks escaped _ ih =>
    have backslash : ¬Outside '\\' := by decide
    simp only [List.cons_append, List.append_assoc, quiet.spread_kept backslash,
      quiet.spread_inside escaped.inside]
    have regroup : done.reverse ++ (Mark.escape c :: marks).flatMap (Mark.chars put) =
        (c :: done).reverse ++ marks.flatMap (Mark.chars put) := by simp [Mark.chars]
    rw [regroup]
    refine yields_stringBody_escape.2 ⟨b, c, _, escaped, rfl, ?_, ih⟩
    simp only [List.cons_append, List.append_assoc, quiet.spread_kept backslash,
      quiet.spread_inside escaped.inside, List.length_cons, List.length_append] at fits
    omega

end String

end CodeGate.Json
