import CodeGate.Proofs.Json.Tokens

/-!
# Scalars in a text that was spread

Literals, strings and numbers, by the first character. A number ends where something stands that may follow
a value; this is the only place where it matters what follows.
-/

namespace CodeGate.Json

open CodeGate.Text

variable {α β : Type} {put : Char → List Char} {s a : List Char} {c : Char} {r rest : List Glyph}
  {bound bound' : Nat} {n : Number} {negative : Bool} {t : Written} {v : Value}

/-! ## Results of readers -/

theorem yields_map {f : α → β} {b : β} {x : Reading α bound} :
    Yields (x.map (·.map f)) b rest ↔ ∃ a, Yields x a rest ∧ b = f a := by
  cases x with
  | error fault => simp [Yields, Except.map]
  | ok p =>
    constructor
    · rintro ⟨_, e, rfl, rfl⟩
      cases e
      exact ⟨p.value, ⟨p, rfl, rfl, rfl⟩, rfl⟩
    · rintro ⟨a, ⟨_, e, rfl, rfl⟩, rfl⟩
      cases e
      exact ⟨_, rfl, rfl, rfl⟩

theorem yields_widen {h : bound ≤ bound'} {a : α} {x : Reading α bound} :
    Yields (x.map (·.widen h)) a rest ↔ Yields x a rest := by
  cases x with
  | error fault => simp [Yields, Except.map]
  | ok p =>
    constructor
    · rintro ⟨_, e, rfl, rfl⟩
      cases e
      exact ⟨p, rfl, rfl, rfl⟩
    · rintro ⟨_, e, rfl, rfl⟩
      cases e
      exact ⟨_, rfl, rfl, rfl⟩

theorem yields_map_widen {f : α → β} {b : β} {x : Reading α bound} {h : bound ≤ bound'} :
    Yields (x.map fun p => (p.map f).widen h) b rest ↔ ∃ a, Yields x a rest ∧ b = f a := by
  rw [← yields_map, ← yields_widen (h := h)]
  cases x <;> rfl

/-! ## Numbers -/

theorem Numeric.inside (h : Numeric c) : ¬Outside c := by
  simp only [Outside, List.mem_cons, List.not_mem_nil, or_false]
  rintro (rfl | rfl | rfl) <;> exact absurd h (by unfold Numeric; decide)

/-- A character that may stand behind a value. -/
def Follower (c : Char) : Prop := c ∈ [' ', '\n', '\t', '\r', ',', ']', '\x7d']

instance : DecidablePred Follower := fun _ => inferInstanceAs (Decidable (_ ∈ _))

/-- A text behind a value. -/
def Stops (s : List Char) : Prop := ∀ c ∈ s.head?, Follower c

theorem Follower.inside (h : Follower c) : ¬Outside c := by
  have all : ∀ x ∈ [' ', '\n', '\t', '\r', ',', ']', '\x7d'], ¬Outside x :=
    List.all_iff_forall_prop.1 (by decide)
  exact all c h

theorem Quiet.ends (quiet : Quiet put) (h : Stops s) : Ends (spread put s) := by
  cases s with
  | nil => exact ends_nil
  | cons c s =>
    have follower : Follower c := h c rfl
    have facts : ∀ x ∈ [' ', '\n', '\t', '\r', ',', ']', '\x7d'],
        digit? (.char x) = none ∧ x ≠ '.' ∧ x ≠ 'e' ∧ x ≠ 'E' := List.all_iff_forall_prop.1 (by decide)
    obtain ⟨noDigit, noPoint, noSmall, noLarge⟩ := facts c follower
    rw [quiet.spread_kept follower.inside]
    exact ⟨by simpa [NoDigit] using noDigit, by simpa using noPoint, by simpa using noSmall,
      by simpa using noLarge⟩

/-- A number that is found in a spread text is spelled there. -/
theorem Quiet.number_spelled (quiet : Quiet put)
    (found : Yields (unsignedNumber negative (spread put s)) n rest) :
    ∃ c a s', s = c :: (a ++ s') ∧ c.isDigit = true ∧ (∀ x ∈ c :: a, Numeric x) ∧
      Yields (unsignedNumber negative ((c :: a).map .char)) n [] ∧ rest = spread put s' := by
  obtain ⟨c, a, split, numerics, isDigit, same⟩ := unsignedNumber_local found
  obtain ⟨s', rfl, rest⟩ := quiet.of_spread_append split fun x hx => (numerics x hx).inside
  have alone := same [] ends_nil
  rw [List.append_nil] at alone
  exact ⟨c, a, s', rfl, isDigit, numerics, alone, rest⟩

/-- A text that is nothing but a number starts with a digit, and it is a number before any end. -/
theorem number_extends {s : List Char} (alone : Yields (unsignedNumber negative (s.map .char)) n []) :
    (∃ c a, s = c :: a ∧ c.isDigit = true) ∧ (∀ x ∈ s, Numeric x) ∧
      ∀ after, Ends after → Yields (unsignedNumber negative (s.map .char ++ after)) n after := by
  obtain ⟨c, a, split, numerics, isDigit, same⟩ := unsignedNumber_local alone
  rw [List.append_nil] at split
  obtain rfl : s = c :: a := (List.map_inj_right fun _ _ => Glyph.char.inj).1 split
  exact ⟨⟨c, a, rfl, isDigit⟩, numerics, same⟩

/-! ## Scalars -/

/-- How a value starts: not with white space, a bracket or an entity, or anything that may follow a value. -/
structure Starts (c : Char) : Prop where
  solid : ¬Follower c
  inside : ¬Outside c

/-- How a scalar starts: not with a bracket that opens a list or an object either. -/
structure StartsScalar (c : Char) : Prop extends Starts c where
  noList : c ≠ '['
  noObject : c ≠ '\x7b'

theorem startsScalar_of_mem (h : c ∈ ['n', 't', 'f', '"', '-']) : StartsScalar c := by
  have facts : ∀ c ∈ ['n', 't', 'f', '"', '-'], ¬Follower c ∧ ¬Outside c ∧ c ≠ '[' ∧ c ≠ '\x7b' :=
    List.all_iff_forall_prop.1 (by decide)
  obtain ⟨solid, inside, noList, noObject⟩ := facts c h
  exact ⟨⟨solid, inside⟩, noList, noObject⟩

theorem startsScalar_of_isDigit (h : c.isDigit = true) : StartsScalar c := by
  have differs : ∀ x, x.isDigit = false → c ≠ x := by
    rintro x hx rfl
    rw [h] at hx
    cases hx
  have none : ∀ x ∈ [' ', '\n', '\t', '\r', ',', ']', '\x7d'], x.isDigit = false :=
    List.all_iff_forall_prop.1 (by decide)
  exact ⟨⟨fun follower => differs _ (none c follower) rfl, (Numeric.inside (.inl h))⟩,
    differs _ (by decide), differs _ (by decide)⟩

theorem Quiet.word_spelled (quiet : Quiet put) {letters : List Char} {h : r.length < bound}
    (split : spread put s = .char c :: r) (found : Yields (word letters r h) () rest)
    (inside : ∀ x ∈ c :: letters, ¬Outside x) : ∃ s', s = (c :: letters) ++ s' ∧ rest = spread put s' := by
  rw [yields_word.1 found] at split
  exact quiet.of_spread_append (a := c :: letters) split inside

/-- What a reader of scalars finds in a spread text is spelled there. -/
theorem Quiet.scalar_spelled (quiet : Quiet put) {g : Glyph} (split : spread put s = g :: r)
    (found : Yields (scalar g r) v rest) :
    ∃ a s' t, s = a ++ s' ∧ ScalarSpelled a t ∧ v = t.value put ∧ rest = spread put s' := by
  unfold scalar at found
  split at found
  · next first =>
    obtain ⟨_, word, rfl⟩ := yields_map.1 found
    obtain ⟨s', rfl, rfl⟩ := quiet.word_spelled (first ▸ split) word (List.all_iff_forall_prop.1 (by decide))
    exact ⟨_, s', .null, rfl, .null, rfl, rfl⟩
  split at found
  · next first =>
    obtain ⟨_, word, rfl⟩ := yields_map.1 found
    obtain ⟨s', rfl, rfl⟩ := quiet.word_spelled (first ▸ split) word (List.all_iff_forall_prop.1 (by decide))
    exact ⟨_, s', .bool true, rfl, .true, rfl, rfl⟩
  split at found
  · next first =>
    obtain ⟨_, word, rfl⟩ := yields_map.1 found
    obtain ⟨s', rfl, rfl⟩ := quiet.word_spelled (first ▸ split) word (List.all_iff_forall_prop.1 (by decide))
    exact ⟨_, s', .bool false, rfl, .false, rfl, rfl⟩
  split at found
  · next first =>
    obtain ⟨_, body, rfl⟩ := yields_map.1 found
    obtain ⟨s', rfl, rfl⟩ := quiet.of_spread_cons (first ▸ split) (by decide)
    obtain ⟨a, marks, s'', rfl, spelled, rfl, rfl⟩ := quiet.stringSpelled body
    exact ⟨'"' :: (a ++ ['"']), s'', .string marks, by simp, .string spelled, rfl, rfl⟩
  split at found
  · next first =>
    obtain ⟨s', rfl, rfl⟩ := quiet.of_spread_cons (first ▸ split) (by decide)
    obtain ⟨n, number, rfl⟩ := yields_map_widen.1 found
    obtain ⟨c, a, s'', rfl, -, -, alone, rfl⟩ := quiet.number_spelled number
    exact ⟨'-' :: c :: a, s'', .number n, rfl, .number (.negative alone), rfl, rfl⟩
  split at found
  · obtain ⟨n, number, rfl⟩ := yields_map.1 found
    rw [← split] at number
    obtain ⟨c, a, s', rfl, -, -, alone, rfl⟩ := quiet.number_spelled number
    exact ⟨c :: a, s', .number n, rfl, .number (.positive alone), rfl, rfl⟩
  · exact absurd found not_yields_error

/-- A digit starts a number and nothing else. -/
theorem ne_of_digit {g : Glyph} (digit : (digit? g).isSome = true) :
    ∀ c ∈ ['n', 't', 'f', '"', '-', '[', '\x7b'], g ≠ .char c := by
  rintro c hc rfl
  have none : ∀ c ∈ ['n', 't', 'f', '"', '-', '[', '\x7b'], (digit? (.char c)).isSome = false :=
    List.all_iff_forall_prop.1 (by decide)
  rw [none c hc] at digit
  cases digit

/-- A number that starts with a digit is read as one. -/
theorem scalar_of_digit {g : Glyph} (digit : (digit? g).isSome = true) :
    scalar g r = (unsignedNumber false (g :: r)).map (·.map Value.number) := by
  have differs := ne_of_digit digit
  rw [scalar, if_neg (differs _ (by simp)), if_neg (differs _ (by simp)), if_neg (differs _ (by simp)),
    if_neg (differs _ (by simp)), if_neg (differs _ (by simp)), if_pos digit]

theorem scalar_digit {n : Number} (isDigit : c.isDigit = true)
    (found : Yields (unsignedNumber false (.char c :: r)) n rest) :
    Yields (scalar (.char c) r) (.number n) rest := by
  rw [scalar_of_digit (by simp [digit?, isDigit])]
  exact yields_map.2 ⟨n, found, rfl⟩

/-- What is spelled is found, if something that may follow a value stands behind it. -/
theorem Quiet.yields_of_scalarSpelled (quiet : Quiet put) (spelled : ScalarSpelled a t) (stops : Stops s) :
    ∃ c r, spread put (a ++ s) = .char c :: r ∧ StartsScalar c ∧
      Yields (scalar (.char c) r) (t.value put) (spread put s) := by
  cases spelled with
  | null =>
    have inside : ∀ x ∈ ['n', 'u', 'l', 'l'], ¬Outside x := List.all_iff_forall_prop.1 (by decide)
    refine ⟨'n', _, quiet.spread_inside inside s, startsScalar_of_mem (by simp), ?_⟩
    rw [scalar, if_pos rfl]
    exact yields_map.2 ⟨(), yields_word.2 rfl, rfl⟩
  | true =>
    have inside : ∀ x ∈ ['t', 'r', 'u', 'e'], ¬Outside x := List.all_iff_forall_prop.1 (by decide)
    refine ⟨'t', _, quiet.spread_inside inside s, startsScalar_of_mem (by simp), ?_⟩
    rw [scalar, if_neg (by decide), if_pos rfl]
    exact yields_map.2 ⟨(), yields_word.2 rfl, rfl⟩
  | false =>
    have inside : ∀ x ∈ ['f', 'a', 'l', 's', 'e'], ¬Outside x := List.all_iff_forall_prop.1 (by decide)
    refine ⟨'f', _, quiet.spread_inside inside s, startsScalar_of_mem (by simp), ?_⟩
    rw [scalar, if_neg (by decide), if_neg (by decide), if_pos rfl]
    exact yields_map.2 ⟨(), yields_word.2 rfl, rfl⟩
  | @string a marks spelled =>
    have regroup : '"' :: (a ++ ['"']) ++ s = '"' :: (a ++ '"' :: s) := by simp
    refine ⟨'"', spread put (a ++ '"' :: s), ?_, startsScalar_of_mem (by simp), ?_⟩
    · rw [regroup, quiet.spread_kept (by decide)]
    · rw [scalar, if_neg (by decide), if_neg (by decide), if_neg (by decide), if_pos rfl]
      exact yields_map.2 ⟨_, quiet.yields_of_stringSpelled spelled, rfl⟩
  | number spelled =>
    cases spelled with
    | positive alone =>
      obtain ⟨⟨c, a, rfl, isDigit⟩, numerics, same⟩ := number_extends alone
      have inside : ∀ x ∈ c :: a, ¬Outside x := fun x hx => (numerics x hx).inside
      exact ⟨c, _, quiet.spread_inside inside s, startsScalar_of_isDigit isDigit,
        scalar_digit isDigit (same _ (quiet.ends stops))⟩
    | @negative a _ alone =>
      obtain ⟨-, numerics, same⟩ := number_extends alone
      have inside : ∀ x ∈ '-' :: a, ¬Outside x :=
        List.forall_mem_cons.2 ⟨by decide, fun x hx => (numerics x hx).inside⟩
      refine ⟨'-', _, quiet.spread_inside inside s, startsScalar_of_mem (by simp), ?_⟩
      rw [scalar, if_neg (by decide), if_neg (by decide), if_neg (by decide), if_neg (by decide), if_pos rfl]
      exact yields_map_widen.2 ⟨_, same _ (quiet.ends stops), rfl⟩

end CodeGate.Json
