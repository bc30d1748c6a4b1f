import CodeGate.Proofs.Json.Rows

/-!
# What a text is read as

A text is accepted exactly if it spells a tree, and the value that is read is the one of the tree. This
holds of a text with its brackets put down in any harmless way, with the same trees, so putting them down
as entities neither loses a text nor adds one.
-/

namespace CodeGate.Json

open CodeGate.Text

variable {α : Type} {put : Char → List Char} {s : List Char} {g : Glyph} {r rest x : List Glyph} {first : Bool}
  {bound : Nat}

/-! ## Values -/

section Value

variable {depth : Nat} {v : Value}

theorem not_yields_value_nil (h : skipSpace x = []) : ¬Yields (value depth x) v rest := by
  unfold value
  split
  · exact not_yields_error
  · next hs => cases h.symm.trans hs

theorem yields_value_scalar (h : skipSpace x = g :: r) (noList : g ≠ .char '[') (noObject : g ≠ .char '\x7b') :
    Yields (value depth x) v rest ↔ Yields (scalar g r) v rest := by
  unfold value
  split
  · next hs => cases h.symm.trans hs
  · next hs =>
    cases h.symm.trans hs
    rw [if_neg noList, if_neg noObject]
    exact yields_widen

theorem yields_value_list (h : skipSpace x = .char '[' :: r) :
    Yields (value depth x) v rest ↔
      ∃ d vs, depth = d + 1 ∧ v = .list vs ∧ Loop (shutBy ']') (nextOf (value d)) [] r vs rest := by
  unfold value
  split
  · next hs => cases h.symm.trans hs
  · next hs =>
    cases h.symm.trans hs
    rw [if_pos rfl]
    cases depth with
    | zero => simp [not_yields_error]
    | succ d =>
      constructor
      · intro found
        obtain ⟨vs, read, rfl⟩ := yields_map.1 found
        exact ⟨d, vs, rfl, rfl, yields_items.1 read⟩
      · rintro ⟨d, vs, ⟨⟩, rfl, loop⟩
        exact yields_map.2 ⟨vs, yields_items.2 loop, rfl⟩

theorem yields_value_object (h : skipSpace x = .char '\x7b' :: r) :
    Yields (value depth x) v rest ↔
      ∃ d ms, depth = d + 1 ∧ v = .object (Members.ofList ms) ∧
        Loop (shutBy '\x7d') (nextMember (value d)) [] r ms rest := by
  unfold value
  split
  · next hs => cases h.symm.trans hs
  · next hs =>
    cases h.symm.trans hs
    rw [if_neg (by decide), if_pos rfl]
    cases depth with
    | zero => simp [not_yields_error]
    | succ d =>
      constructor
      · intro found
        obtain ⟨ms, read, rfl⟩ := yields_map.1 found
        exact ⟨d, ms, rfl, rfl, yields_entries.1 read⟩
      · rintro ⟨d, ms, ⟨⟩, rfl, loop⟩
        exact yields_map.2 ⟨ms, yields_entries.2 loop, rfl⟩

end Value

/-- A reader that finds what is spelled, behind white space. -/
structure Faithful (put : Char → List Char) (Inner : List Char → Written → Prop) (read : Reader Value) :
    Prop where
  starts {a : List Char} {t : Written} (h : Inner a t) : ∃ c a', a = c :: a' ∧ Starts c
  spelled {s : List Char} {v : Value} {rest : List Glyph} (h : Yields (read (spread put s)) v rest) :
    ∃ b a s' t, s = b ++ (a ++ s') ∧ Blank b ∧ Inner a t ∧ v = t.value put ∧ rest = spread put s'
  found {b a s : List Char} {t : Written} (blank : Blank b) (h : Inner a t) (stops : Stops s) :
    Yields (read (spread put (b ++ (a ++ s)))) (t.value put) (spread put s)

section Faithful

variable {Inner : List Char → Written → Prop} {read : Reader Value}

theorem Faithful.items (quiet : Quiet put) (faithful : Faithful put Inner read) :
    Nexts put Inner (Written.value put) (nextOf read) where
  spelled h := by
    obtain ⟨g, r, opens, -, h⟩ := h
    obtain ⟨b, s', rfl, gap, split⟩ := quiet.of_opens opens
    rw [← split] at h
    obtain ⟨b', a, s'', t, rfl, blank, spelled, rfl, rfl⟩ := faithful.spelled h
    exact ⟨b ++ b', a, s'', t, by simp, gap.append blank, spelled, rfl, rfl⟩
  found {_ _ _ s t} gap h stops := by
    obtain ⟨c, a, rfl, starts⟩ := faithful.starts h
    have item := faithful.found (b := []) (by simp [Blank]) h stops
    rw [List.nil_append, List.cons_append, quiet.spread_kept starts.inside] at item
    refine ⟨.char c, _, quiet.opens gap starts, ?_, item⟩
    intro closes
    exact starts.solid (by rw [Glyph.char.inj closes]; decide)

theorem Faithful.members (quiet : Quiet put) (faithful : Faithful put Inner read) :
    Nexts put (MemberSpelled Inner) (memberValue put) (nextMember read) where
  spelled {_ _ m _} h := by
    obtain ⟨r, k, opens, key, h⟩ := h
    obtain ⟨b, s', rfl, gap, split⟩ := quiet.of_opens opens
    obtain ⟨s₁, rfl, rfl⟩ := quiet.of_spread_cons split (by decide)
    obtain ⟨r', body, colon⟩ := yields_keyAndColon.1 key
    obtain ⟨a, marks, s₂, rfl, spelled, named, rfl⟩ := quiet.stringSpelled body
    obtain ⟨b', s₃, rfl, blank, rfl⟩ := (quiet.shuts (by decide) (by decide)).spelled colon
    obtain ⟨b'', a', s₄, t, rfl, blank', inner, valued, rfl⟩ := faithful.spelled h
    refine ⟨b, _, s₄, (marks, t), ?_, gap, .mk spelled blank blank' inner, Prod.ext named valued, rfl⟩
    simp
  found gap h stops := by
    obtain ⟨spelled, blank, blank', inner⟩ := h
    obtain ⟨opens, colon⟩ := quiet.opens_member gap blank
    exact ⟨_, _, opens, yields_keyAndColon.2 ⟨_, quiet.yields_of_stringSpelled spelled, colon⟩,
      faithful.found blank' inner stops⟩

end Faithful

theorem Spelled.scalar {a : List Char} {t : Written} {depth : Nat} (h : ScalarSpelled a t) :
    Spelled depth a t := by
  cases depth with
  | zero => exact h
  | succ d => exact Layer.scalar h

theorem Spelled.cases {a : List Char} {t : Written} {depth : Nat} (h : Spelled depth a t) :
    ScalarSpelled a t ∨ ∃ d, depth = d + 1 ∧ Layer (Spelled d) a t := by
  cases depth with
  | zero => exact .inl h
  | succ d => exact .inr ⟨d, rfl, h⟩

theorem Quiet.skipSpace_starts (quiet : Quiet put) {b : List Char} {c : Char} (blank : Blank b)
    (starts : Starts c) (split : spread put s = .char c :: r) :
    skipSpace (spread put (b ++ s)) = .char c :: r := by
  obtain ⟨s', rfl, rfl⟩ := quiet.of_spread_cons split starts.inside
  exact (quiet.skipSpace_found blank starts.notBlank).trans split

theorem ScalarSpelled.starts {a : List Char} {t : Written} (h : ScalarSpelled a t) :
    ∃ c a', a = c :: a' ∧ Starts c := by
  obtain ⟨c, r, split, starts, -⟩ := quiet_self.yields_of_scalarSpelled (s := []) h (by simp [Stops])
  rw [List.append_nil] at split
  obtain ⟨a', rfl, -⟩ := quiet_self.of_spread_cons split starts.inside
  exact ⟨c, a', rfl, starts.toStarts⟩

theorem Spelled.starts {a : List Char} {t : Written} {depth : Nat} (h : Spelled depth a t) :
    ∃ c a', a = c :: a' ∧ Starts c := by
  rcases h.cases with scalar | ⟨d, rfl, layer⟩
  · exact scalar.starts
  · cases layer with
    | scalar scalar => exact scalar.starts
    | list row => exact ⟨'[', _, rfl, by decide, by decide⟩
    | object row => exact ⟨'\x7b', _, rfl, by decide, by decide⟩

section Layer

variable (quiet : Quiet put) {a b : List Char} {d depth : Nat} {t : Written}
include quiet

theorem Quiet.found_scalar (blank : Blank b) (h : ScalarSpelled a t) (stops : Stops s) :
    Yields (value depth (spread put (b ++ (a ++ s)))) (t.value put) (spread put s) := by
  obtain ⟨c, r, split, starts, found⟩ := quiet.yields_of_scalarSpelled h stops
  have first := quiet.skipSpace_starts blank starts.toStarts split
  exact (yields_value_scalar first (by simpa using starts.noList) (by simpa using starts.noObject)).2 found

variable (inner : Faithful put (Spelled d) (value d))
include inner

/-- A list that is read behind its opening bracket is spelled there. -/
theorem Quiet.list_spelled {vs : List Value} (split : spread put s = .char '[' :: r)
    (loop : Loop (shutBy ']') (nextOf (value d)) [] r vs rest) :
    ∃ a s' t, s = a ++ s' ∧ Spelled (d + 1) a t ∧ .list vs = t.value put ∧ rest = spread put s' := by
  obtain ⟨s', rfl, rfl⟩ := quiet.of_spread_cons split (by decide)
  have shuts : Shuts put ']' (shutBy ']') := quiet.shuts (by decide) (by decide)
  obtain ⟨a, ts, s'', rfl, row, rfl, rfl⟩ := loop.spelled shuts (inner.items quiet)
  refine ⟨'[' :: (a ++ [']']), s'', .list ts, by simp, Layer.list row, ?_, rfl⟩
  simp [Written.value, Written.valueItems_eq]

/-- An object that is read behind its opening bracket is spelled there. -/
theorem Quiet.object_spelled {ms : List (String × Value)} (split : spread put s = .char '\x7b' :: r)
    (loop : Loop (shutBy '\x7d') (nextMember (value d)) [] r ms rest) :
    ∃ a s' t, s = a ++ s' ∧ Spelled (d + 1) a t ∧ .object (Members.ofList ms) = t.value put ∧
      rest = spread put s' := by
  obtain ⟨s', rfl, rfl⟩ := quiet.of_spread_cons split (by decide)
  have shuts : Shuts put '\x7d' (shutBy '\x7d') := quiet.shuts (by decide) (by decide)
  obtain ⟨a, ts, s'', rfl, row, rfl, rfl⟩ := loop.spelled shuts (inner.members quiet)
  refine ⟨'\x7b' :: (a ++ ['\x7d']), s'', .object ts, by simp, Layer.object row, ?_, rfl⟩
  simp [Written.value, Written.valueMembers_eq]

theorem Quiet.found_list {ts : List Written} (blank : Blank b) (row : Row (Spelled d) true a ts) :
    Yields (value (d + 1) (spread put (b ++ ('[' :: (a ++ [']']) ++ s))))
      ((Written.list ts).value put) (spread put s) := by
  have shuts : Shuts put ']' (shutBy ']') := quiet.shuts (by decide) (by decide)
  have loop := row.found (s := s) shuts.found (inner.items quiet).found (by decide)
    (show ([] : List Value).isEmpty = true from rfl)
  have regroup : '[' :: (a ++ [']']) ++ s = '[' :: (a ++ ']' :: s) := by simp
  have first := quiet.front (s := a ++ ']' :: s) blank (show Starts '[' from ⟨by decide, by decide⟩)
  rw [regroup]
  refine (yields_value_list first).2 ⟨d, _, rfl, ?_, loop⟩
  simp [Written.value, Written.valueItems_eq]

theorem Quiet.found_object {ms : List (List Mark × Written)} (blank : Blank b)
    (row : Row (MemberSpelled (Spelled d)) true a ms) :
    Yields (value (d + 1) (spread put (b ++ ('\x7b' :: (a ++ ['\x7d']) ++ s))))
      ((Written.object ms).value put) (spread put s) := by
  have shuts : Shuts put '\x7d' (shutBy '\x7d') := quiet.shuts (by decide) (by decide)
  have loop := row.found (s := s) shuts.found (inner.members quiet).found (by decide)
    (show ([] : List (String × Value)).isEmpty = true from rfl)
  have regroup : '\x7b' :: (a ++ ['\x7d']) ++ s = '\x7b' :: (a ++ '\x7d' :: s) := by simp
  have first := quiet.front (s := a ++ '\x7d' :: s) blank (show Starts '\x7b' from ⟨by decide, by decide⟩)
  rw [regroup]
  refine (yields_value_object first).2 ⟨d, _, rfl, ?_, loop⟩
  simp [Written.value, Written.valueMembers_eq]

end Layer

/-- One layer more of lists and objects is read if what stands inside is. -/
theorem faithful_layer (quiet : Quiet put) {depth : Nat}
    (inner : ∀ d, depth = d + 1 → Faithful put (Spelled d) (value d)) :
    Faithful put (Spelled depth) (value depth) where
  starts h := h.starts
  spelled {s v rest} h := by
    cases hs : skipSpace (spread put s) with
    | nil => exact absurd h (not_yields_value_nil hs)
    | cons g r =>
      obtain ⟨b, s', rfl, blank, split⟩ := quiet.of_skipSpace hs
      by_cases list : g = .char '['
      · subst list
        obtain ⟨d, vs, rfl, rfl, loop⟩ := (yields_value_list hs).1 h
        obtain ⟨a, s'', t, rfl, spelled, value, rfl⟩ := quiet.list_spelled (inner d rfl) split loop
        exact ⟨b, a, s'', t, rfl, blank, spelled, value, rfl⟩
      by_cases object : g = .char '\x7b'
      · subst object
        obtain ⟨d, ms, rfl, rfl, loop⟩ := (yields_value_object hs).1 h
        obtain ⟨a, s'', t, rfl, spelled, value, rfl⟩ := quiet.object_spelled (inner d rfl) split loop
        exact ⟨b, a, s'', t, rfl, blank, spelled, value, rfl⟩
      · obtain ⟨a, s'', t, rfl, spelled, rfl, rfl⟩ :=
          quiet.scalar_spelled split ((yields_value_scalar hs list object).1 h)
        exact ⟨b, a, s'', t, rfl, blank, .scalar spelled, rfl, rfl⟩
  found blank h stops := by
    rcases h.cases with scalar | ⟨d, rfl, layer⟩
    · exact quiet.found_scalar blank scalar stops
    · cases layer with
      | scalar scalar => exact quiet.found_scalar blank scalar stops
      | list row => exact quiet.found_list (inner d rfl) blank row
      | object row => exact quiet.found_object (inner d rfl) blank row

/-- A value is read if it is spelled, at every depth that is left. -/
theorem faithful_value (quiet : Quiet put) (depth : Nat) : Faithful put (Spelled depth) (value depth) := by
  induction depth with
  | zero => exact faithful_layer quiet nofun
  | succ d ih =>
    refine faithful_layer quiet fun d' e => ?_
    obtain rfl := Nat.succ.inj e
    exact ih

/-! ## Documents -/

theorem finish_eq_ok : finish x = .ok () ↔ skipSpace x = [] := by
  unfold finish
  split
  · next h => simp [h]
  · next h => simpa using h

/-- A reader takes a whole text if it leaves nothing but white space. -/
theorem finished_eq_ok {read : Reading α bound} {a : α} :
    (do
      let p ← read
      finish p.rest
      pure p.value) = .ok a ↔ ∃ rest, Yields read a rest ∧ skipSpace rest = [] := by
  cases read with
  | error fault => simp [Yields, bind, Except.bind]
  | ok p =>
    constructor
    · intro h
      cases done : finish p.rest with
      | error fault => simp [bind, Except.bind, done] at h
      | ok _ =>
        simp only [bind, Except.bind, done, pure, Except.pure, Except.ok.injEq] at h
        exact ⟨p.rest, ⟨p, rfl, h, rfl⟩, finish_eq_ok.1 done⟩
    · rintro ⟨_, ⟨_, ⟨⟩, rfl, rfl⟩, blank⟩
      simp only [bind, Except.bind, finish_eq_ok.2 blank, pure, Except.pure]

theorem readGlyphs_eq_ok {v : Value} :
    readGlyphs x = .ok v ↔ ∃ rest, Yields (value maxDepth x) v rest ∧ skipSpace rest = [] :=
  finished_eq_ok

/-- **Reading.** A text is accepted if and only if it spells a tree, and the value read is the one of the
tree, whichever harmless way the brackets of the text were put down. -/
theorem Quiet.readGlyphs_spread (quiet : Quiet put) {v : Value} :
    readGlyphs (spread put s) = .ok v ↔ ∃ t, Document s t ∧ v = t.value put := by
  rw [readGlyphs_eq_ok]
  constructor
  · rintro ⟨rest, found, blank⟩
    obtain ⟨b, a, s', t, rfl, hb, spelled, rfl, rfl⟩ := (faithful_value quiet maxDepth).spelled found
    obtain ⟨b', s'', rfl, hb', -, skipped⟩ := quiet.skipSpace_spread s'
    rw [skipped] at blank
    obtain rfl := quiet.spread_eq_nil blank
    rw [List.append_nil]
    exact ⟨t, .mk hb spelled hb', rfl⟩
  · rintro ⟨t, @⟨b, a, b', _, hb, spelled, hb'⟩, rfl⟩
    refine ⟨spread put b', (faithful_value quiet maxDepth).found hb spelled (stops_of_blank hb'), ?_⟩
    have skipped := quiet.skipSpace_blank hb' []
    rwa [List.append_nil] at skipped

theorem read_eq_ok_iff_readGlyphs {text : String} {v : Value} :
    read text = .ok v ↔ readGlyphs (Glyph.ofString text) = .ok v := by
  unfold read
  dsimp only
  split
  · next found => simp [found]
  · next failed => simp [failed]

/-- The glyphs of a text are its characters, put down as themselves. -/
theorem ofString_eq_spread (text : String) : Glyph.ofString text = spread (fun c => [c]) text.toList := by
  simp [Glyph.ofString, spread]

/-- A text is read as the tree it spells. -/
theorem read_eq_ok_iff {data : String} {v : Value} :
    read data = .ok v ↔ ∃ t, Document data.toList t ∧ v = t.value fun c => [c] := by
  rw [read_eq_ok_iff_readGlyphs, ofString_eq_spread, quiet_self.readGlyphs_spread]

end CodeGate.Json
