import CodeGate.Proofs.Json.Passed

/-!
# Passing over lists and objects

Lists and objects are passed over with a stack of the frames that are open. Passing over a value comes to
passing over what is left of the frames around it, from behind the value; what is shown once of a loop over
entries then holds of the values that a reader takes and of those of the form alike. As the place behind a
value is settled by the text, a reader that takes a value of the form stops where the value does.
-/

namespace CodeGate.Json

open CodeGate.Text

variable {α β : Type} {g : Glyph} {r rest x y : List Glyph} {first : Bool} {bound : Nat}

/-! ## Passing over a value -/

/-- Passing over a value in front of `x` comes to passing over what is left of the frames around it, from
`rest`. White space in front makes no difference. -/
def Skips (x rest : List Glyph) : Prop :=
  ∀ y, skipSpace y = skipSpace x → ∀ (stack : List Frame) {bound : Nat} (h : y.length ≤ bound),
    ∃ h' : rest.length < bound, skimEntry stack y h = skimAfter stack rest h'

theorem Skips.yields (skips : Skips x rest) : Yields (skim x) () rest := by
  obtain ⟨shorter, same⟩ := skips x rfl [] (length_le_self x)
  rw [skim, same, skimAfter]
  exact yields_ok.2 ⟨rfl, rfl⟩

/-- A reader stops at one place. -/
theorem Yields.rest_unique {a a' : α} {rest' : List Glyph} {x : Reading α bound} (h : Yields x a rest)
    (h' : Yields x a' rest') : rest = rest' := by
  obtain ⟨p, found, -, rfl⟩ := h
  obtain ⟨p', found', -, rfl⟩ := h'
  rw [Except.ok.inj (found.symm.trans found')]

/-- There is one place where passing over a value ends. -/
theorem Skips.unique {rest' : List Glyph} (skips : Skips x rest) (skips' : Skips x rest') : rest = rest' :=
  skips.yields.rest_unique skips'.yields

theorem skips_of_scalar (front : skipSpace x = g :: r) (noList : g ≠ .char '[') (noObject : g ≠ .char '\x7b')
    (found : Yields (skimScalar g r) () rest) : Skips x rest := by
  intro y same stack bound h
  obtain ⟨p, found, -, rfl⟩ := found
  have shorter := cons_le_of_skipSpace (same.trans front)
  refine ⟨Nat.lt_of_lt_of_le p.shorter (Nat.le_trans shorter h), ?_⟩
  rw [skimEntry]
  split
  · next none => cases none.symm.trans (same.trans front)
  · next found' =>
    cases found'.symm.trans (same.trans front)
    rw [if_neg noList, if_neg noObject]
    simp only [found]

/-! ## Loops over entries -/

theorem Loop.imp {shut : List Glyph → List Glyph → Prop} {next : Bool → List Glyph → α → List Glyph → Prop}
    {next' : Bool → List Glyph → α → List Glyph → Prop}
    (imp : ∀ {first x a rest}, next first x a rest → next' first x a rest) {done all : List α}
    (loop : Loop shut next done x all rest) : Loop shut next' done x all rest := by
  induction loop with
  | close closed => exact .close closed
  | step entry _ ih => exact .step (imp entry) ih

/-- The bracket that closes a frame, as a character. -/
def Frame.bracket : Frame → Char
  | list => ']'
  | object => '\x7d'

/-- An entry of a frame that is passed over: an item of a list, or a member of an object with its key. -/
inductive Frame.Passes : Frame → Bool → List Glyph → List Glyph → Prop where
  | item {first : Bool} {x r rest : List Glyph} {g : Glyph} (opens : Opens first x g r) (unclosed : g ≠ .char ']')
      (skips : Skips (g :: r) rest) : Passes .list first x rest
  | member {first : Bool} {x r r' k rest : List Glyph} (opens : Opens first x (.char '"') r)
      (key : Yields (skimString r (length_le_self r)) () r') (colon : shutBy ':' r' k) (skips : Skips k rest) :
      Passes .object first x rest

theorem yields_skimKey {k : List Glyph} (front : skipSpace x = .char '"' :: r)
    (key : Yields (skimString r (length_le_self r)) () y) (shut : shutBy ':' y k) : Yields (skimKey x) () k := by
  obtain ⟨p, key, -, rfl⟩ := key
  unfold skimKey
  split
  · next none => cases none.symm.trans front
  · next found =>
    cases found.symm.trans front
    rw [if_pos rfl]
    simp only [key]
    exact yields_widen.2 (yields_colon.2 shut)

theorem Opens.front (opens : Opens first x g r) : skipSpace (g :: r) = g :: r := by
  cases first with
  | true => exact front_of_skipSpace opens
  | false =>
    obtain ⟨r', -, front⟩ := opens
    exact front_of_skipSpace front

/-- The bracket that opens a frame. -/
def Frame.opening : Frame → Char
  | list => '['
  | object => '\x7b'

theorem Frame.closing_eq (frame : Frame) : frame.closing = .char frame.bracket := by
  cases frame <;> rfl

section Frames

variable {frame : Frame} {done all : List α}

/-- A frame that is closed here is left. -/
theorem skimAfter_close (closed : shutBy frame.bracket x rest) (stack : List Frame) {h : x.length < bound} :
    ∃ h' : rest.length < bound, skimAfter (frame :: stack) x h = skimAfter stack rest h' := by
  have noComma : (Glyph.char frame.bracket : Glyph) ≠ .char ',' := by cases frame <;> decide
  refine ⟨Nat.lt_trans (length_lt_of_shutBy closed) h, ?_⟩
  rw [skimAfter]
  split
  · next none => cases none.symm.trans closed
  · next found =>
    cases found.symm.trans closed
    rw [if_neg noComma, if_pos frame.closing_eq.symm]

/-- A later entry of a frame is passed over. -/
theorem skimAfter_entry (entry : frame.Passes false x rest) (stack : List Frame) {h : x.length < bound} :
    ∃ h' : rest.length < bound, skimAfter (frame :: stack) x h = skimAfter (frame :: stack) rest h' := by
  cases entry with
  | @item _ _ r _ g opens _ skips =>
    obtain ⟨r', comma, front⟩ := opens
    have shorter : r'.length ≤ bound := Nat.le_of_lt (Nat.lt_trans (cons_le_of_skipSpace comma) h)
    obtain ⟨h', same⟩ := skips r' (front.trans (front_of_skipSpace front).symm) (.list :: stack) shorter
    refine ⟨h', ?_⟩
    rw [skimAfter]
    split
    · next none => cases none.symm.trans comma
    · next found =>
      cases found.symm.trans comma
      rw [if_pos rfl]
      exact same
  | member opens key colon skips =>
    obtain ⟨r', comma, front⟩ := opens
    obtain ⟨p, found', -, rfl⟩ := yields_skimKey front key colon
    have shorter : p.rest.length ≤ bound :=
      Nat.le_of_lt (Nat.lt_trans p.shorter (Nat.lt_trans (cons_le_of_skipSpace comma) h))
    obtain ⟨h', same⟩ := skips p.rest rfl (.object :: stack) shorter
    refine ⟨h', ?_⟩
    rw [skimAfter]
    split
    · next none => cases none.symm.trans comma
    · next found =>
      cases found.symm.trans comma
      rw [if_pos rfl]
      simp only [found']
      exact same

/-- Behind the first entry of a frame, what is left of its row is passed over. -/
theorem skimAfter_of_loop
    (loop : Loop (shutBy frame.bracket) (fun first x _ rest => frame.Passes first x rest) done x all rest)
    (some : done.isEmpty = false) (stack : List Frame) {h : x.length < bound} :
    ∃ h' : rest.length < bound, skimAfter (frame :: stack) x h = skimAfter stack rest h' := by
  induction loop with
  | close closed => exact skimAfter_close closed stack
  | step entry _ ih =>
    rw [some] at entry
    obtain ⟨h', same⟩ := skimAfter_entry entry stack (h := h)
    obtain ⟨h'', left⟩ := ih rfl (h := h')
    exact ⟨h'', same.trans left⟩

/-- The first entry of a frame is passed over. -/
theorem skimOpened_entry (entry : frame.Passes true x rest) (stack : List Frame) {h : x.length < bound} :
    ∃ h' : rest.length < bound, skimOpened frame stack x h = skimAfter (frame :: stack) rest h' := by
  cases entry with
  | @item _ _ r _ g opens unclosed skips =>
    have front : skipSpace x = g :: r := opens
    obtain ⟨h', same⟩ := skips x (front.trans opens.front.symm) (.list :: stack) (Nat.le_of_lt h)
    refine ⟨h', ?_⟩
    rw [skimOpened]
    split
    · next none => cases none.symm.trans front
    · next found =>
      cases found.symm.trans front
      rw [if_neg (show g ≠ Frame.list.closing from unclosed)]
      exact same
  | member opens key colon skips =>
    obtain ⟨p, found', -, rfl⟩ := yields_skimKey opens key colon
    have shorter : p.rest.length ≤ bound := Nat.le_of_lt (Nat.lt_trans p.shorter h)
    obtain ⟨h', same⟩ := skips p.rest rfl (.object :: stack) shorter
    refine ⟨h', ?_⟩
    rw [skimOpened]
    split
    · next none => cases none.symm.trans opens
    · next found =>
      cases found.symm.trans opens
      rw [if_neg (by decide)]
      simp only [found']
      exact same

/-- A frame that was just opened is passed over. -/
theorem skimOpened_of_loop
    (loop : Loop (shutBy frame.bracket) (fun first x _ rest => frame.Passes first x rest) ([] : List α) x all rest)
    (stack : List Frame) {h : x.length < bound} :
    ∃ h' : rest.length < bound, skimOpened frame stack x h = skimAfter stack rest h' := by
  cases loop with
  | close closed =>
    refine ⟨Nat.lt_trans (length_lt_of_shutBy closed) h, ?_⟩
    rw [skimOpened]
    split
    · next none => cases none.symm.trans closed
    · next found =>
      cases found.symm.trans closed
      rw [if_pos frame.closing_eq.symm]
  | step entry tail =>
    obtain ⟨h', same⟩ := skimOpened_entry entry stack (h := h)
    obtain ⟨h'', left⟩ := skimAfter_of_loop tail rfl stack (h := h')
    exact ⟨h'', same.trans left⟩

/-- A list or an object with its row of entries is passed over. -/
theorem skips_of_loop (frame : Frame) (front : skipSpace x = .char frame.opening :: r)
    (loop : Loop (shutBy frame.bracket) (fun first x _ rest => frame.Passes first x rest) ([] : List α) r all rest) :
    Skips x rest := by
  intro y same stack bound h
  have fits : r.length < bound := Nat.lt_of_lt_of_le (cons_le_of_skipSpace (same.trans front)) h
  obtain ⟨h', left⟩ := skimOpened_of_loop loop stack (h := fits)
  refine ⟨h', ?_⟩
  rw [skimEntry]
  split
  · next none => cases none.symm.trans (same.trans front)
  · next found =>
    cases found.symm.trans (same.trans front)
    cases frame with
    | list =>
      rw [if_pos (by rfl)]
      exact left
    | object =>
      rw [if_neg (by decide), if_pos (by rfl)]
      exact left

end Frames

/-! ## What a reader of values takes -/

theorem skimScalar_of_scalar {v : Value} (found : Yields (scalar g r) v rest) : Yields (skimScalar g r) () rest := by
  unfold scalar at found
  unfold skimScalar
  split at found
  · next first =>
    rw [if_pos first]
    exact (yields_map.1 found).choose_spec.1
  next notNull =>
  rw [if_neg notNull]
  split at found
  · next first =>
    rw [if_pos first]
    exact (yields_map.1 found).choose_spec.1
  next notTrue =>
  rw [if_neg notTrue]
  split at found
  · next first =>
    rw [if_pos first]
    exact (yields_map.1 found).choose_spec.1
  next notFalse =>
  rw [if_neg notFalse]
  split at found
  · next first =>
    obtain ⟨_, body, -⟩ := yields_map.1 found
    rw [if_pos first]
    exact skimString_of_stringBody body
  next noString =>
  rw [if_neg noString]
  split at found
  · next first =>
    obtain ⟨_, number, -⟩ := yields_map_widen.1 found
    rw [if_pos first]
    exact yields_widen.2 (skimNumber_of_unsignedNumber number)
  next noSign =>
  rw [if_neg noSign]
  split at found
  · next digit =>
    obtain ⟨_, number, -⟩ := yields_map.1 found
    rw [if_pos digit]
    exact skimNumber_of_unsignedNumber number
  · exact absurd found not_yields_error

theorem skips_of_value {depth : Nat} {v : Value} (found : Yields (value depth x) v rest) : Skips x rest := by
  induction depth using Nat.strongRecOn generalizing x v rest with
  | ind depth ih =>
    cases front : skipSpace x with
    | nil => exact absurd found (not_yields_value_nil front)
    | cons g r =>
      by_cases list : g = .char '['
      · subst list
        obtain ⟨d, vs, rfl, -, loop⟩ := (yields_value_list front).1 found
        refine skips_of_loop .list front (loop.imp ?_)
        rintro first x v rest ⟨g, r, opens, unclosed, item⟩
        exact .item opens unclosed (ih d (Nat.lt_succ_self d) item)
      by_cases object : g = .char '\x7b'
      · subst object
        obtain ⟨d, ms, rfl, -, loop⟩ := (yields_value_object front).1 found
        refine skips_of_loop .object front (loop.imp ?_)
        rintro first x m rest ⟨r, k, opens, key, item⟩
        obtain ⟨r', body, colon⟩ := yields_keyAndColon.1 key
        exact .member opens (skimString_of_stringBody body) colon (ih d (Nat.lt_succ_self d) item)
      · exact skips_of_scalar front list object
          (skimScalar_of_scalar ((yields_value_scalar front list object).1 found))

/-! ## What has the form of a value -/

theorem skimScalar_digit {c : Char} (isDigit : c.isDigit = true)
    (found : Yields (skimNumber (.char c :: r)) () rest) :
    Yields (skimScalar (.char c) r) () rest := by
  have digit : (digit? (.char c)).isSome = true := by simp [digit?, isDigit]
  have differs := ne_of_digit digit
  rw [skimScalar, if_neg (differs _ (by simp)), if_neg (differs _ (by simp)), if_neg (differs _ (by simp)),
    if_neg (differs _ (by simp)), if_neg (differs _ (by simp)), if_pos digit]
  exact found

theorem skimScalar_of_formed {a : List Char} (formed : ScalarFormed a) (ends : Ends rest) :
    ∃ c a', a = c :: a' ∧ StartsScalar c ∧ Yields (skimScalar (.char c) (a'.map .char ++ rest)) () rest := by
  cases formed with
  | null =>
    refine ⟨'n', ['u', 'l', 'l'], rfl, startsScalar_of_mem (by simp), ?_⟩
    rw [skimScalar, if_pos rfl]
    exact yields_word.2 rfl
  | true =>
    refine ⟨'t', ['r', 'u', 'e'], rfl, startsScalar_of_mem (by simp), ?_⟩
    rw [skimScalar, if_neg (by decide), if_pos rfl]
    exact yields_word.2 rfl
  | false =>
    refine ⟨'f', ['a', 'l', 's', 'e'], rfl, startsScalar_of_mem (by simp), ?_⟩
    rw [skimScalar, if_neg (by decide), if_neg (by decide), if_pos rfl]
    exact yields_word.2 rfl
  | @string s formed =>
    have regroup : (s ++ ['"']).map Glyph.char ++ rest = s.map .char ++ .char '"' :: rest := by simp
    refine ⟨'"', s ++ ['"'], rfl, startsScalar_of_mem (by simp), ?_⟩
    rw [skimScalar, if_neg (by decide), if_neg (by decide), if_neg (by decide), if_pos rfl, regroup]
    exact yields_skimString formed
  | positive formed =>
    obtain ⟨c, a', rfl, isDigit⟩ := formed.starts
    exact ⟨c, a', rfl, startsScalar_of_isDigit isDigit, skimScalar_digit isDigit (yields_skimNumber formed ends)⟩
  | @negative s formed =>
    refine ⟨'-', s, rfl, startsScalar_of_mem (by simp), ?_⟩
    rw [skimScalar, if_neg (by decide), if_neg (by decide), if_neg (by decide), if_neg (by decide), if_pos rfl]
    exact yields_widen.2 (yields_skimNumber formed ends)

/-- The glyphs of a text that is put down as it is. -/
theorem spread_self_append (a s : List Char) :
    spread (fun c => [c]) (a ++ s) = a.map .char ++ spread (fun c => [c]) s := by
  simp [spread]

theorem skips_of_scalarFormed {a b s : List Char} (formed : ScalarFormed a) (blank : Blank b) (stops : Stops s) :
    Skips (spread (fun c => [c]) (b ++ (a ++ s))) (spread (fun c => [c]) s) := by
  obtain ⟨c, a', rfl, starts, found⟩ := skimScalar_of_formed formed (quiet_self.ends stops)
  have front : skipSpace (spread (fun c => [c]) (b ++ (c :: a' ++ s))) =
      .char c :: (a'.map .char ++ spread (fun c => [c]) s) := by
    rw [List.cons_append, quiet_self.skipSpace_found blank starts.toStarts.notBlank, ← List.cons_append,
      spread_self_append, List.map_cons, List.cons_append]
  exact skips_of_scalar front (by simpa using starts.noList) (by simpa using starts.noObject) found

section Inner

variable {Inner : List Char → Prop} {a b s : List Char}

/-- An item of the form is passed over behind the gap in front of it. -/
theorem passes_item (starts : ∀ {a : List Char}, Inner a → ∃ c a', a = c :: a' ∧ Starts c)
    (inner : ∀ {a b s : List Char}, Inner a → Blank b → Stops s →
      Skips (spread (fun c => [c]) (b ++ (a ++ s))) (spread (fun c => [c]) s))
    (gap : Gap first b) (item : Inner a) (stops : Stops s) :
    Frame.list.Passes first (spread (fun c => [c]) (b ++ (a ++ s))) (spread (fun c => [c]) s) := by
  obtain ⟨c, a', rfl, starts⟩ := starts item
  have skips := inner item blank_nil stops
  rw [List.nil_append, List.cons_append, quiet_self.spread_kept starts.inside] at skips
  refine .item (quiet_self.opens gap starts) ?_ skips
  intro closes
  exact starts.solid (by rw [Glyph.char.inj closes]; decide)

/-- A member of the form is passed over behind the gap in front of it. -/
theorem passes_member (inner : ∀ {a b s : List Char}, Inner a → Blank b → Stops s →
      Skips (spread (fun c => [c]) (b ++ (a ++ s))) (spread (fun c => [c]) s))
    (gap : Gap first b) {n : Unit} (member : MemberFormed Inner a n) (stops : Stops s) :
    Frame.object.Passes first (spread (fun c => [c]) (b ++ (a ++ s))) (spread (fun c => [c]) s) := by
  obtain ⟨key, blank, blank', value⟩ := member
  obtain ⟨opens, colon⟩ := quiet_self.opens_member gap blank
  refine .member opens ?_ colon (inner value blank' stops)
  rw [spread_self_append, quiet_self.spread_kept (c := '"') (by decide)]
  exact yields_skimString key

end Inner

/-- A value of the form is passed over, behind white space and before anything that may follow a value. -/
theorem skips_of_formed {depth : Nat} {a b s : List Char} (formed : Formed depth a) (blank : Blank b)
    (stops : Stops s) : Skips (spread (fun c => [c]) (b ++ (a ++ s))) (spread (fun c => [c]) s) := by
  induction depth using Nat.strongRecOn generalizing a b s with
  | ind depth ih =>
    rcases formed.cases with scalar | ⟨d, rfl, layer⟩
    · exact skips_of_scalarFormed scalar blank stops
    have inner : ∀ {a b s : List Char}, Formed d a → Blank b → Stops s →
        Skips (spread (fun c => [c]) (b ++ (a ++ s))) (spread (fun c => [c]) s) :=
      ih d (Nat.lt_succ_self d)
    cases layer with
    | scalar scalar => exact skips_of_scalarFormed scalar blank stops
    | @list r n row =>
      have shuts : Shuts (fun c => [c]) ']' (shutBy ']') := quiet_self.shuts (by decide) (by decide)
      have regroup : '[' :: (r ++ [']']) ++ s = '[' :: (r ++ ']' :: s) := by simp
      rw [regroup]
      exact skips_of_loop .list (quiet_self.front blank ⟨by decide, by decide⟩)
        (row.found (f := id) shuts.found (fun gap item stops => passes_item Formed.starts inner gap item stops)
          (by decide) rfl)
    | @object r n row =>
      have shuts : Shuts (fun c => [c]) '\x7d' (shutBy '\x7d') := quiet_self.shuts (by decide) (by decide)
      have regroup : '\x7b' :: (r ++ ['\x7d']) ++ s = '\x7b' :: (r ++ '\x7d' :: s) := by simp
      rw [regroup]
      exact skips_of_loop .object (quiet_self.front blank ⟨by decide, by decide⟩)
        (row.found (f := id) shuts.found (fun gap member stops => passes_member inner gap member stops)
          (by decide) rfl)

end CodeGate.Json
