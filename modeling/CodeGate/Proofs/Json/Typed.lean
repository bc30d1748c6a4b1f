import CodeGate.Json.Record
import CodeGate.Proofs.Json.Documents

/-!
# Readers of one type

A reader that asks for a string, a list of strings, an object, an integer, or null in place of one of these
takes exactly the values of that kind that the reader of any value takes, and stops where that one does. So
what is known of reading values holds of the slots of a record.
-/

namespace CodeGate.Json

open CodeGate.Text

variable {α : Type} {g : Glyph} {r rest x : List Glyph} {depth : Nat} {v : Value}

/-! ## First glyphs -/

/-- The glyph that a value of this kind starts with. -/
def Value.Leads : Value → Glyph → Prop
  | null, g => g = .char 'n'
  | bool _, g => g = .char 't' ∨ g = .char 'f'
  | string _, g => g = .char '"'
  | number _, g => g = .char '-' ∨ (digit? g).isSome = true
  | list _, g => g = .char '['
  | object _, g => g = .char '\x7b'

theorem leads_of_scalar (found : Yields (scalar g r) v rest) : v.Leads g := by
  unfold scalar at found
  split at found
  · next first =>
    obtain ⟨_, -, rfl⟩ := yields_map.1 found
    exact first
  split at found
  · next first =>
    obtain ⟨_, -, rfl⟩ := yields_map.1 found
    exact .inl first
  split at found
  · next first =>
    obtain ⟨_, -, rfl⟩ := yields_map.1 found
    exact .inr first
  split at found
  · next first =>
    obtain ⟨_, -, rfl⟩ := yields_map.1 found
    exact first
  split at found
  · next first =>
    obtain ⟨_, -, rfl⟩ := yields_map_widen.1 found
    exact .inl first
  split at found
  · next first =>
    obtain ⟨_, -, rfl⟩ := yields_map.1 found
    exact .inr first
  · exact absurd found not_yields_error

theorem leads_of_value (front : skipSpace x = g :: r) (found : Yields (value depth x) v rest) : v.Leads g := by
  by_cases list : g = .char '['
  · subst list
    obtain ⟨_, _, -, rfl, -⟩ := (yields_value_list front).1 found
    rfl
  by_cases object : g = .char '\x7b'
  · subst object
    obtain ⟨_, _, -, rfl, -⟩ := (yields_value_object front).1 found
    rfl
  · exact leads_of_scalar ((yields_value_scalar front list object).1 found)

/-! ## Readers of one kind -/

/-- What the body of a string comes to does not depend on the bound that its reader was given. -/
theorem yields_stringBody_of_bound {done : List Char} {sound : Bool} {t : String} {bound bound' : Nat}
    {fits : x.length ≤ bound} {fits' : x.length ≤ bound'} (found : Yields (stringBody done sound x fits) t rest) :
    Yields (stringBody done sound x fits') t rest := by
  fun_induction stringBody done sound x fits with
  | case2 =>
    next ih =>
    rw [stringBody.eq_def]
    exact ih found
  | case3 =>
    rw [stringBody.eq_def]
    exact yields_ok.2 (yields_ok.1 found)
  | case7 =>
    next p escape _ _ _ ih =>
    have shorter : p.rest.length ≤ bound' := by
      have := p.shorter
      simp only [List.length_cons] at fits'
      omega
    exact (stringBody_unicode ⟨p, escape, rfl, rfl⟩).symm ▸ @ih shorter found
  | case8 =>
    next stands _ _ _ ih =>
    rw [stringBody_letter stands]
    exact ih found
  | case12 =>
    next noQuote noEscape noControl _ ih =>
    rw [stringBody_ordinary ⟨noQuote, noEscape, Nat.not_lt.1 noControl⟩]
    exact ih found
  | _ => exact absurd found not_yields_error

theorem yields_text (depth : Nat) {t : String} :
    Yields (text x) t rest ↔ Yields (value depth x) (.string t) rest := by
  unfold text
  split
  · next front => exact iff_of_false not_yields_error (not_yields_value_nil front)
  · next g r front =>
    split
    · next quote =>
      subst quote
      rw [yields_value_scalar front (by decide) (by decide), scalar, if_neg (by decide), if_neg (by decide),
        if_neg (by decide), if_pos rfl, yields_map]
      constructor
      · exact fun found => ⟨t, yields_stringBody_of_bound found, rfl⟩
      · rintro ⟨_, found, ⟨⟩⟩
        exact yields_stringBody_of_bound found
    · next noQuote => exact iff_of_false not_yields_error fun found => noQuote (leads_of_value front found)

theorem yields_object {ms : Members} :
    Yields (object depth x) ms rest ↔ Yields (value depth x) (.object ms) rest := by
  unfold object
  split
  · next front => exact iff_of_false not_yields_error (not_yields_value_nil front)
  · next g r front =>
    split
    · next brace =>
      subst brace
      rw [yields_value_object front]
      cases depth with
      | zero => simp [not_yields_error]
      | succ d => simp [yields_map, yields_entries, and_comm]
    · next noBrace => exact iff_of_false not_yields_error fun found => noBrace (leads_of_value front found)

section Items

variable {β : Type} {f : α → β} {shut : List Glyph → List Glyph → Prop}
  {next : Bool → List Glyph → α → List Glyph → Prop} {next' : Bool → List Glyph → β → List Glyph → Prop}

/-- A loop only adds entries to those that were read. -/
theorem Loop.extends {done all : List α} (loop : Loop shut next done x all rest) :
    ∃ more, all = done.reverse ++ more := by
  induction loop with
  | close => exact ⟨[], by simp⟩
  | @step done _ _ _ _ a _ _ ih =>
    obtain ⟨more, rfl⟩ := ih
    exact ⟨a :: more, by simp⟩

theorem Loop.map (each : ∀ {first x a rest}, next first x a rest → next' first x (f a) rest) {done all : List α}
    (loop : Loop shut next done x all rest) : Loop shut next' (done.map f) x (all.map f) rest := by
  induction loop with
  | close closed =>
    rw [List.map_reverse]
    exact .close closed
  | step entry _ ih =>
    rw [← List.isEmpty_map] at entry
    exact .step (each entry) ih

/-- A loop whose entries all come from another reader's is a loop of that reader. -/
theorem Loop.of_map (injective : ∀ {a b}, f a = f b → a = b)
    (each : ∀ {first x a rest}, next' first x (f a) rest → next first x a rest) {done all : List α}
    (loop : Loop shut next' (done.map f) x (all.map f) rest) : Loop shut next done x all rest := by
  generalize done' : done.map f = bs, all' : all.map f = cs at loop
  induction loop generalizing done with
  | close closed =>
    subst done'
    rw [← List.map_reverse] at all'
    rw [(List.map_inj_right fun _ _ => injective).1 all']
    exact .close closed
  | @step bs cs x x' rest b entry tail ih =>
    obtain ⟨more, rfl⟩ := tail.extends
    subst done'
    rw [List.reverse_cons, ← List.map_reverse, List.append_assoc] at all'
    obtain ⟨_, as, rfl, -, split⟩ := List.map_eq_append_iff.1 all'
    obtain ⟨a, as, rfl, rfl, -⟩ := List.map_eq_cons_iff.1 split
    rw [List.isEmpty_map] at entry
    refine .step (each entry) (ih rfl ?_)
    simpa using all'

end Items

theorem yields_listOf_text {ts : List String} :
    Yields (listOf (fun _ => text) depth x) ts rest ↔ Yields (value depth x) (.list (ts.map .string)) rest := by
  unfold listOf
  split
  · next front => exact iff_of_false not_yields_error (not_yields_value_nil front)
  · next g r front =>
    split
    · next bracket =>
      subst bracket
      rw [yields_value_list front]
      cases depth with
      | zero => simp [not_yields_error]
      | succ d =>
        have each : ∀ {first : Bool} {x : List Glyph} {t : String} {rest : List Glyph},
            nextOf text first x t rest ↔ nextOf (value d) first x (.string t) rest := by
          simp [nextOf, yields_text d]
        constructor
        · intro found
          have loop : Loop (shutBy ']') (nextOf (value d)) (([] : List String).map Value.string) r
              (ts.map Value.string) rest :=
            Loop.map (fun entry => each.1 entry) (yields_items.1 found)
          exact ⟨d, _, rfl, rfl, loop⟩
        · rintro ⟨_, _, ⟨⟩, ⟨⟩, loop⟩
          exact yields_items.2 (loop.of_map Value.string.inj each.2)
    · next noBracket => exact iff_of_false not_yields_error fun found => noBracket (leads_of_value front found)

/-- Reading a value starts at the first glyph that is no white space. -/
theorem yields_value_front (front : skipSpace x = g :: r) :
    Yields (value depth (g :: r)) v rest ↔ Yields (value depth x) v rest := by
  have here := front_of_skipSpace front
  by_cases list : g = .char '['
  · subst list
    rw [yields_value_list here, yields_value_list front]
  by_cases object : g = .char '\x7b'
  · subst object
    rw [yields_value_object here, yields_value_object front]
  · rw [yields_value_scalar here list object, yields_value_scalar front list object]

theorem yields_orNull_text (depth : Nat) {t? : Option String} :
    Yields (orNull text x) t? rest ↔ Yields (value depth x) ((t?.map .string).getD .null) rest := by
  unfold orNull
  split
  · next front => exact iff_of_false not_yields_error (not_yields_value_nil front)
  · next g r front =>
    split
    · next first =>
      subst first
      rw [yields_value_scalar front (by decide) (by decide), scalar, if_pos rfl, yields_map, yields_map]
      cases t? with
      | none =>
        simp only [Option.map_none, Option.getD_none, and_true]
        exact exists_congr fun _ => yields_word.trans yields_word.symm
      | some t => simp
    · next other =>
      rw [yields_map_widen]
      cases t? with
      | none =>
        refine iff_of_false (by simp) fun found => other (leads_of_value front found)
      | some t => simp [yields_text depth, yields_value_front front]

/-- An integer is taken if it has no sign. -/
theorem yields_natural {k : Int} {n bound : Nat} {fault : Fault} {shorter : x.length < bound} :
    Yields (if k < 0 then .error fault else .ok ⟨k.toNat, x, shorter⟩) n rest ↔ (n : Int) = k ∧ rest = x := by
  by_cases sign : k < 0
  · have differs : (n : Int) ≠ k := by omega
    simp [sign, not_yields_error, differs]
  · have same : n = k.toNat ↔ (n : Int) = k := by omega
    simp [sign, yields_ok, same]

theorem yields_natural64 (depth : Nat) {n : Nat} :
    Yields (natural64 x) n rest ↔ Yields (value depth x) (.number (.integer n)) rest := by
  unfold natural64
  split
  · next front => exact iff_of_false not_yields_error (not_yields_value_nil front)
  · next g r front =>
    dsimp only
    split
    · next sign =>
      subst sign
      rw [yields_value_scalar front (by decide) (by decide), scalar, if_neg (by decide), if_neg (by decide),
        if_neg (by decide), if_neg (by decide), if_pos rfl, yields_map_widen]
      split
      · next failed => simp [failed, not_yields_error]
      · next p found =>
        obtain ⟨number, y, shorter⟩ := p
        cases number with
        | float => simp [found, yields_ok, Parsed.widen, not_yields_error]
        | integer k => simp [found, yields_ok, Parsed.widen, yields_natural]
    next noSign =>
    split
    · next digit =>
      have differs := ne_of_digit digit
      rw [yields_value_scalar front (differs _ (by simp)) (differs _ (by simp)), scalar_of_digit digit, yields_map]
      split
      · next failed => simp [failed, not_yields_error]
      · next p found =>
        obtain ⟨number, y, shorter⟩ := p
        cases number with
        | float => simp [found, yields_ok, Parsed.widen, not_yields_error]
        | integer k => simp [found, yields_ok, Parsed.widen, yields_natural]
    · next noDigit =>
      refine iff_of_false not_yields_error fun found => ?_
      exact (leads_of_value front found).elim noSign noDigit

end CodeGate.Json
