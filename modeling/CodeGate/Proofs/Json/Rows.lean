import CodeGate.Proofs.Json.Scalars
import Mathlib.Data.List.DropRight

/-!
# Rows in a text that was spread

The items of a list and the members of an object are read by loops of one shape: the row is closed, or an
entry is read and the loop goes on. What such a loop comes to is described once, apart from either reader,
and compared with the rows of the grammar; either reader is then shown to be such a loop.
-/

namespace CodeGate.Json

open CodeGate.Text

/-! ## Loops -/

section Loop

variable {α : Type} (shut : List Glyph → List Glyph → Prop) (next : Bool → List Glyph → α → List Glyph → Prop)

/-- A loop that reads a row: `done` holds the entries read so far in reverse, and `next` is told whether
there are any. -/
inductive Loop : List α → List Glyph → List α → List Glyph → Prop where
  | close {done : List α} {g rest : List Glyph} (closed : shut g rest) : Loop done g done.reverse rest
  | step {done all : List α} {g g' rest : List Glyph} {a : α} (entry : next done.isEmpty g a g')
      (tail : Loop (a :: done) g' all rest) : Loop done g all rest

end Loop

section Spread

variable {α β : Type} {put : Char → List Char} {Entry : List Char → α → Prop} {f : α → β} {close : Char}
  {shut : List Glyph → List Glyph → Prop} {next : Bool → List Glyph → β → List Glyph → Prop}

/-- A row is closed by a bracket behind white space. -/
structure Shuts (put : Char → List Char) (close : Char) (shut : List Glyph → List Glyph → Prop) : Prop where
  spelled {s : List Char} {rest : List Glyph} (h : shut (spread put s) rest) :
    ∃ b s', s = b ++ close :: s' ∧ Blank b ∧ rest = spread put s'
  found {b s : List Char} (h : Blank b) : shut (spread put (b ++ close :: s)) (spread put s)

/-- An entry is what is spelled behind the gap in front of it. -/
structure Nexts (put : Char → List Char) (Entry : List Char → α → Prop) (f : α → β)
    (next : Bool → List Glyph → β → List Glyph → Prop) : Prop where
  spelled {first : Bool} {s : List Char} {v : β} {rest : List Glyph} (h : next first (spread put s) v rest) :
    ∃ b a s' t, s = b ++ (a ++ s') ∧ Gap first b ∧ Entry a t ∧ v = f t ∧ rest = spread put s'
  found {first : Bool} {b a s : List Char} {t : α} (gap : Gap first b) (h : Entry a t) (stops : Stops s) :
    next first (spread put (b ++ (a ++ s))) (f t) (spread put s)

theorem follower_of_blank {c : Char} (h : c ∈ [' ', '\n', '\t', '\r']) : Follower c :=
  List.mem_append_left [',', ']', '\x7d'] h

theorem blank_nil : Blank [] := nofun

theorem stops_of_blank {b : List Char} (blank : Blank b) : Stops b :=
  fun c hc => follower_of_blank (blank c (List.mem_of_mem_head? hc))

theorem stops_blank {b s : List Char} {c : Char} (blank : Blank b) (h : Follower c) :
    Stops (b ++ c :: s) := by
  cases b with
  | nil => simpa [Stops] using h
  | cons d b => simpa [Stops] using follower_of_blank (blank d List.mem_cons_self)

/-- What follows an entry of a row may follow a value. -/
theorem Row.stops {s r : List Char} {as : List α} (row : Row Entry false r as) (h : Follower close) :
    Stops (r ++ close :: s) := by
  cases row with
  | stop blank => exact stops_blank blank h
  | more gap entry tail =>
    cases gap with
    | later blank blank' =>
      rw [List.append_assoc, List.append_assoc]
      exact stops_blank blank (by decide)

/-- What a loop finds in a spread text is a row that is spelled there, up to its bracket. -/
theorem Loop.spelled (shuts : Shuts put close shut) (nexts : Nexts put Entry f next) {done all : List β}
    {s : List Char} {rest : List Glyph} (loop : Loop shut next done (spread put s) all rest) :
    ∃ a as s', s = a ++ close :: s' ∧ Row Entry done.isEmpty a as ∧ all = done.reverse ++ as.map f ∧
      rest = spread put s' := by
  generalize split : spread put s = g at loop
  induction loop generalizing s with
  | close closed =>
    obtain ⟨b, s', rfl, blank, rfl⟩ := shuts.spelled (split ▸ closed)
    exact ⟨b, [], s', rfl, .stop blank, by simp, rfl⟩
  | step entry _ ih =>
    obtain ⟨b, a, s', t, rfl, gap, spelled, rfl, rfl⟩ := nexts.spelled (split ▸ entry)
    obtain ⟨r, as, s'', rfl, row, rfl, rfl⟩ := ih rfl
    exact ⟨b ++ (a ++ r), t :: as, s'', by simp, .more gap spelled row, by simp, rfl⟩

/-- A row that is spelled up to its bracket is what a loop finds, if it finds the bracket and each entry. -/
theorem Row.found {first : Bool} {a s : List Char} {as : List α} (row : Row Entry first a as)
    (shuts : ∀ {b s : List Char}, Blank b → shut (spread put (b ++ close :: s)) (spread put s))
    (nexts : ∀ {first : Bool} {b a s : List Char} {t : α}, Gap first b → Entry a t → Stops s →
      next first (spread put (b ++ (a ++ s))) (f t) (spread put s)) (follower : Follower close)
    {done : List β} (h : done.isEmpty = first) :
    Loop shut next done (spread put (a ++ close :: s)) (done.reverse ++ as.map f) (spread put s) := by
  induction row generalizing done with
  | stop blank =>
    rw [List.map_nil, List.append_nil]
    exact .close (shuts blank)
  | @more first b a r t as gap entry tail ih =>
    have regroup : b ++ (a ++ r) ++ close :: s = b ++ (a ++ (r ++ close :: s)) := by simp
    have all : done.reverse ++ (t :: as).map f = (f t :: done).reverse ++ as.map f := by simp
    rw [regroup, all]
    subst h
    exact .step (nexts gap entry (tail.stops follower)) (ih rfl)

end Spread

section Reader

variable {α : Type} {put : Char → List Char} {s : List Char} {g : Glyph} {r rest x : List Glyph} {first : Bool}
  {bound : Nat}

/-! ## What stands between entries -/

/-- A row is closed: its bracket is the next glyph that is no white space. -/
def shutBy (close : Char) (s rest : List Glyph) : Prop := skipSpace s = .char close :: rest

/-- An entry opens with a glyph, behind a comma if it is not the first. -/
def Opens : Bool → List Glyph → Glyph → List Glyph → Prop
  | true, s, g, r => skipSpace s = g :: r
  | false, s, g, r => ∃ r', skipSpace s = .char ',' :: r' ∧ skipSpace r' = g :: r

/-- Behind white space that was passed over there is no more of it. -/
theorem front_of_skipSpace (front : skipSpace x = g :: r) : skipSpace (g :: r) = g :: r := by
  rw [← front]
  exact List.dropWhile_idempotent isSpace x

theorem not_opens_nil (hs : skipSpace x = []) : ¬Opens first x g r := by
  cases first with
  | true => simp [Opens, hs]
  | false => simp [Opens, hs]

section

variable {g₁ : Glyph} {r₁ : List Glyph} (hs : skipSpace x = g₁ :: r₁)
include hs

theorem opens_first_iff : Opens true x g r ↔ g₁ = g ∧ r₁ = r := by
  rw [Opens, hs, List.cons.injEq]

theorem opens_later_iff : Opens false x g r ↔ g₁ = .char ',' ∧ skipSpace r₁ = g :: r := by
  simp only [Opens, hs, List.cons.injEq]
  constructor
  · rintro ⟨_, ⟨comma, rfl⟩, behind⟩
    exact ⟨comma, behind⟩
  · rintro ⟨comma, behind⟩
    exact ⟨r₁, ⟨comma, rfl⟩, behind⟩

end

theorem length_lt_of_shutBy {close : Char} (h : shutBy close x rest) : rest.length < x.length :=
  cons_le_of_skipSpace h

theorem length_le_of_opens (h : Opens first x g r) : (g :: r).length ≤ x.length := by
  cases first with
  | true => exact cons_le_of_skipSpace h
  | false =>
    obtain ⟨r', comma, opens⟩ := h
    exact cons_le_of_skipSpace_cons comma opens

theorem Quiet.of_skipSpace (quiet : Quiet put) (h : skipSpace (spread put s) = g :: r) :
    ∃ b s', s = b ++ s' ∧ Blank b ∧ spread put s' = g :: r := by
  obtain ⟨b, s', rfl, blank, -, skipped⟩ := quiet.skipSpace_spread s
  exact ⟨b, s', rfl, blank, skipped ▸ h⟩

theorem Quiet.skipSpace_found (quiet : Quiet put) {b : List Char} {c : Char} (blank : Blank b)
    (solid : c ∉ [' ', '\n', '\t', '\r']) : skipSpace (spread put (b ++ c :: s)) = spread put (c :: s) := by
  rw [quiet.skipSpace_blank blank]
  exact quiet.skipSpace_solid (by simpa [Solid] using solid)

theorem Quiet.shuts (quiet : Quiet put) {close : Char} (solid : close ∉ [' ', '\n', '\t', '\r'])
    (inside : ¬Outside close) : Shuts put close (shutBy close) where
  spelled h := by
    obtain ⟨b, s', rfl, blank, split⟩ := quiet.of_skipSpace h
    obtain ⟨s'', rfl, rfl⟩ := quiet.of_spread_cons split inside
    exact ⟨b, s'', rfl, blank, rfl⟩
  found blank := (quiet.skipSpace_found blank solid).trans (quiet.spread_kept inside _)

theorem Blank.append {b b' : List Char} (h : Blank b) (h' : Blank b') : Blank (b ++ b') :=
  List.forall_mem_append.2 ⟨h, h'⟩

theorem Gap.append {b b' : List Char} (gap : Gap first b) (blank : Blank b') : Gap first (b ++ b') := by
  cases gap with
  | first h => exact .first (h.append blank)
  | later h h' =>
    rw [List.append_assoc]
    exact .later h (h'.append blank)

theorem Quiet.of_opens (quiet : Quiet put) (h : Opens first (spread put s) g r) :
    ∃ b s', s = b ++ s' ∧ Gap first b ∧ spread put s' = g :: r := by
  cases first with
  | true =>
    obtain ⟨b, s', rfl, blank, split⟩ := quiet.of_skipSpace h
    exact ⟨b, s', rfl, .first blank, split⟩
  | false =>
    obtain ⟨r', comma, opens⟩ := h
    obtain ⟨b, s', rfl, blank, split⟩ := quiet.of_skipSpace comma
    obtain ⟨s'', rfl, rfl⟩ := quiet.of_spread_cons split (by decide)
    obtain ⟨b', s', rfl, blank', split⟩ := quiet.of_skipSpace opens
    exact ⟨b ++ ',' :: b', s', by simp, .later blank blank', split⟩

theorem Starts.notBlank {c : Char} (h : Starts c) : c ∉ [' ', '\n', '\t', '\r'] := fun blank =>
  h.solid (follower_of_blank blank)

/-- What starts a value is the first glyph behind white space. -/
theorem Quiet.front (quiet : Quiet put) {b : List Char} {c : Char} (blank : Blank b) (starts : Starts c) :
    skipSpace (spread put (b ++ c :: s)) = .char c :: spread put s :=
  (quiet.skipSpace_found blank starts.notBlank).trans (quiet.spread_kept starts.inside s)

theorem Quiet.opens (quiet : Quiet put) {b : List Char} {c : Char} (gap : Gap first b) (starts : Starts c) :
    Opens first (spread put (b ++ c :: s)) (.char c) (spread put s) := by
  have solid := starts.notBlank
  have here := quiet.spread_kept starts.inside s
  cases gap with
  | first blank => exact (quiet.skipSpace_found blank solid).trans here
  | @later b b' blank blank' =>
    refine ⟨spread put (b' ++ c :: s), ?_, (quiet.skipSpace_found blank' solid).trans here⟩
    rw [List.append_assoc, List.cons_append, quiet.skipSpace_found blank (by decide),
      quiet.spread_kept (by decide)]

/-- A member opens behind its gap with its key, and its value stands behind the colon. -/
theorem Quiet.opens_member (quiet : Quiet put) {b k b' b'' v : List Char} (gap : Gap first b) (blank : Blank b') :
    Opens first (spread put (b ++ ('"' :: (k ++ '"' :: (b' ++ ':' :: (b'' ++ v))) ++ s))) (.char '"')
        (spread put (k ++ '"' :: (b' ++ ':' :: (b'' ++ (v ++ s))))) ∧
      shutBy ':' (spread put (b' ++ ':' :: (b'' ++ (v ++ s)))) (spread put (b'' ++ (v ++ s))) := by
  have regroup : '"' :: (k ++ '"' :: (b' ++ ':' :: (b'' ++ v))) ++ s =
      '"' :: (k ++ '"' :: (b' ++ ':' :: (b'' ++ (v ++ s)))) := by simp
  have starts : Starts '"' := (startsScalar_of_mem (by simp)).toStarts
  rw [regroup]
  exact ⟨quiet.opens gap starts, (quiet.shuts (by decide) (by decide)).found blank⟩

/-! ## Items -/

theorem nextItem_close {hr : rest.length < x.length} :
    nextItem first x = .ok (.close rest hr) ↔ shutBy ']' x rest := by
  unfold nextItem shutBy
  split
  · next hs => simp [hs]
  · next g r hs =>
    by_cases closes : g = .char ']'
    · simp [closes, hs]
    · simp only [closes, hs, if_false, List.cons.injEq, false_and, iff_false]
      repeat' split
      all_goals simp

/-- The first item stands where the list goes on, if it is not closed there. -/
theorem nextItem_first_entry {hr : r.length ≤ x.length} :
    nextItem true x = .ok (.entry r hr) ↔ ∃ g r', r = g :: r' ∧ Opens true x g r' ∧ g ≠ .char ']' := by
  unfold nextItem
  split
  · next hs =>
    refine iff_of_false (by simp) ?_
    rintro ⟨_, _, -, opens, -⟩
    exact not_opens_nil hs opens
  · next g₁ r₁ hs =>
    simp only [opens_first_iff hs, if_true]
    split
    · next closes =>
      refine iff_of_false (by simp) ?_
      rintro ⟨_, _, -, ⟨rfl, rfl⟩, unclosed⟩
      exact unclosed closes
    · next unclosed =>
      constructor
      · intro e
        cases e
        exact ⟨g₁, r₁, rfl, ⟨rfl, rfl⟩, unclosed⟩
      · rintro ⟨_, _, rfl, ⟨rfl, rfl⟩, -⟩
        rfl

/-- A later item stands behind a comma, if the list is not closed behind it. -/
theorem nextItem_later_entry {hr : r.length ≤ x.length} :
    nextItem false x = .ok (.entry r hr) ↔ ∃ g r', r = g :: r' ∧ Opens false x g r' ∧ g ≠ .char ']' := by
  unfold nextItem
  split
  · next hs =>
    refine iff_of_false (by simp) ?_
    rintro ⟨_, _, -, opens, -⟩
    exact not_opens_nil hs opens
  · next g₁ r₁ hs =>
    simp only [opens_later_iff hs, Bool.false_eq_true, if_false]
    split
    · next closes =>
      refine iff_of_false (by simp) ?_
      rintro ⟨_, _, -, ⟨comma, -⟩, -⟩
      rw [closes] at comma
      cases comma
    split
    · next comma =>
      split
      · next hs' =>
        refine iff_of_false (by simp) ?_
        rintro ⟨_, _, -, ⟨-, behind⟩, -⟩
        rw [hs'] at behind
        cases behind
      · next g₂ r₂ hs' =>
        split
        · next closes =>
          refine iff_of_false (by simp) ?_
          rintro ⟨_, _, -, ⟨-, behind⟩, unclosed⟩
          rw [hs'] at behind
          cases behind
          exact unclosed closes
        · next unclosed =>
          constructor
          · intro e
            cases e
            exact ⟨g₂, r₂, rfl, ⟨comma, hs'⟩, unclosed⟩
          · rintro ⟨_, _, rfl, ⟨-, behind⟩, -⟩
            rw [hs'] at behind
            cases behind
            rfl
    · next noComma =>
      refine iff_of_false (by simp) ?_
      rintro ⟨_, _, -, ⟨comma, -⟩, -⟩
      exact noComma comma

theorem nextItem_entry {hr : r.length ≤ x.length} :
    nextItem first x = .ok (.entry r hr) ↔ ∃ g r', r = g :: r' ∧ Opens first x g r' ∧ g ≠ .char ']' := by
  cases first with
  | true => exact nextItem_first_entry
  | false => exact nextItem_later_entry

/-- An item is read. -/
def nextOf (item : Reader α) (first : Bool) (x : List Glyph) (a : α) (rest : List Glyph) : Prop :=
  ∃ g r, Opens first x g r ∧ g ≠ .char ']' ∧ Yields (item (g :: r)) a rest

theorem loop_of_items {item : Reader α} {done all : List α} {x : List Glyph} {h : x.length ≤ bound}
    (found : Yields (items item done x h) all rest) : Loop (shutBy ']') (nextOf item) done x all rest := by
  rw [items] at found
  split at found
  · exact absurd found not_yields_error
  · next r hr closed =>
    obtain ⟨rfl, rfl⟩ := yields_ok.1 found
    exact .close (nextItem_close.1 closed)
  · next r hr entry =>
    split at found
    · exact absurd found not_yields_error
    · next p read =>
      have shorter := p.shorter
      obtain ⟨g, r', rfl, opens, differs⟩ := nextItem_entry.1 entry
      exact .step ⟨g, r', opens, differs, p, read, rfl, rfl⟩ (loop_of_items found)
termination_by x.length
decreasing_by omega

/-- The items of a list are read by a loop. -/
theorem yields_items {item : Reader α} {done all : List α} {h : x.length ≤ bound} :
    Yields (items item done x h) all rest ↔ Loop (shutBy ']') (nextOf item) done x all rest := by
  refine ⟨loop_of_items, fun loop => ?_⟩
  induction loop with
  | @close done x rest closed =>
    have closed : nextItem done.isEmpty x = .ok (.close rest (length_lt_of_shutBy closed)) :=
      nextItem_close.2 closed
    rw [items]
    simp only [closed]
    exact yields_ok.2 ⟨rfl, rfl⟩
  | @step done all x x' rest a entry _ ih =>
    obtain ⟨g, r, opens, differs, p, read, rfl, rfl⟩ := entry
    have entry : nextItem done.isEmpty x = .ok (.entry (g :: r) (length_le_of_opens opens)) :=
      nextItem_entry.2 ⟨g, r, rfl, opens, differs⟩
    rw [items]
    simp only [entry, read]
    exact ih

/-! ## Members -/

theorem nextKey_close {hr : rest.length < x.length} :
    nextKey first x = .ok (.close rest hr) ↔ shutBy '\x7d' x rest := by
  unfold nextKey shutBy
  dsimp only
  split
  · next hs => simp [hs]
  · next g r hs =>
    by_cases closes : g = .char '\x7d'
    · simp [closes, hs]
    · simp only [closes, hs, if_false, List.cons.injEq, false_and, iff_false]
      repeat' split
      all_goals simp

theorem nextKey_entry {hr : r.length ≤ x.length} :
    nextKey first x = .ok (.entry r hr) ↔ Opens first x (.char '"') r := by
  unfold nextKey
  dsimp only
  split
  · next hs => simp [not_opens_nil hs]
  · next g₁ r₁ hs =>
    cases first with
    | true =>
      simp only [opens_first_iff hs, if_true]
      split
      · next closes => simp [closes]
      · split
        · next quote => simp [quote]
        · next noQuote => simp [noQuote]
    | false =>
      simp only [opens_later_iff hs, Bool.false_eq_true, if_false]
      split
      · next closes => simp [closes]
      · split
        · next comma =>
          split
          · next hs' => simp [comma, hs']
          · next g₂ r₂ hs' =>
            split
            · next quote => simp [comma, hs', quote]
            · next noQuote => split <;> simp [comma, hs', noQuote]
        · next noComma => simp [noComma]

theorem yields_colon : Yields (colon x) () rest ↔ shutBy ':' x rest := by
  unfold colon shutBy
  split
  · next hs => simp [hs, not_yields_error]
  · next g r hs =>
    simp only [hs, List.cons.injEq]
    split
    · next here => simp [here, yields_ok, eq_comm]
    · next other => simp [other, not_yields_error]

theorem yields_keyAndColon {key : String} :
    Yields (keyAndColon x) key rest ↔
      ∃ r, Yields (stringBody [] true x (length_le_self x)) key r ∧ shutBy ':' r rest := by
  constructor
  · intro found
    unfold keyAndColon at found
    split at found
    · exact absurd found not_yields_error
    · next p body =>
      split at found
      · exact absurd found not_yields_error
      · next q colon =>
        obtain ⟨rfl, rfl⟩ := yields_ok.1 found
        exact ⟨p.rest, ⟨p, body, rfl, rfl⟩, yields_colon.1 ⟨q, colon, rfl, rfl⟩⟩
  · rintro ⟨_, ⟨p, body, rfl, rfl⟩, shut⟩
    obtain ⟨q, colon, -, rfl⟩ := yields_colon.2 shut
    unfold keyAndColon
    simp only [body, colon]
    exact yields_ok.2 ⟨rfl, rfl⟩

/-- A member is read: its key and colon, and its value. -/
def nextMember (value : Reader α) (first : Bool) (x : List Glyph) (m : String × α) (rest : List Glyph) : Prop :=
  ∃ r k, Opens first x (.char '"') r ∧ Yields (keyAndColon r) m.1 k ∧ Yields (value k) m.2 rest

theorem loop_of_entries {value : Reader α} {done all : List (String × α)} {x : List Glyph}
    {h : x.length ≤ bound} (found : Yields (entries value done x h) all rest) :
    Loop (shutBy '\x7d') (nextMember value) done x all rest := by
  rw [entries] at found
  split at found
  · exact absurd found not_yields_error
  · next r hr closed =>
    obtain ⟨rfl, rfl⟩ := yields_ok.1 found
    exact .close (nextKey_close.1 closed)
  · next r hr entry =>
    split at found
    · exact absurd found not_yields_error
    · next key read =>
      split at found
      · exact absurd found not_yields_error
      · next p read' =>
        have shorter := p.shorter
        have shorter' := key.shorter
        exact .step ⟨r, key.rest, nextKey_entry.1 entry, ⟨key, read, rfl, rfl⟩, p, read', rfl, rfl⟩
          (loop_of_entries found)
termination_by x.length
decreasing_by omega

/-- The members of an object are read by a loop. -/
theorem yields_entries {value : Reader α} {done all : List (String × α)} {h : x.length ≤ bound} :
    Yields (entries value done x h) all rest ↔ Loop (shutBy '\x7d') (nextMember value) done x all rest := by
  refine ⟨loop_of_entries, fun loop => ?_⟩
  induction loop with
  | @close done x rest closed =>
    have closed : nextKey done.isEmpty x = .ok (.close rest (length_lt_of_shutBy closed)) :=
      nextKey_close.2 closed
    rw [entries]
    simp only [closed]
    exact yields_ok.2 ⟨rfl, rfl⟩
  | @step done all x x' rest m entry _ ih =>
    obtain ⟨r, _, opens, ⟨key, read, named, rfl⟩, p, read', valued, rfl⟩ := entry
    obtain ⟨_, _⟩ := m
    subst named valued
    have entry : nextKey done.isEmpty x = .ok (.entry r (length_le_of_cons_le (length_le_of_opens opens))) :=
      nextKey_entry.2 opens
    rw [entries]
    simp only [entry, read, read']
    exact ih

end Reader

end CodeGate.Json
