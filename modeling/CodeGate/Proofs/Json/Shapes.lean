import CodeGate.Proofs.Json.Frames
import CodeGate.Proofs.Json.Typed

/-!
# Records in a text

A record is read from an object member by member: a member with the name of a slot changes the record, and
any other is passed over. What one member does is said once; over a row of members it follows that the
record comes to all changes made in their order, and that no slot is named twice.
-/

namespace CodeGate.Json

open CodeGate.Text

variable {α : Type} {shape : Shape α} {depth bound : Nat} {given : List String} {first : Bool} {name : String}
  {record a : α} {x r r' k rest : List Glyph}

/-! ## Object texts -/

/-- A member with its key and the text of its value. -/
inductive MemberText : List Char → String × List Char → Prop where
  | mk {k b b' v : List Char} {key : List Mark} (spelled : StringSpelled k key) (blank : Blank b)
      (blank' : Blank b') :
      MemberText ('"' :: (k ++ '"' :: (b ++ ':' :: (b' ++ v)))) (markText (fun c => [c]) key, v)

/-- An object with white space around it, by the keys of its members and the texts of their values. -/
inductive ObjectText : List Char → List (String × List Char) → Prop where
  | mk {b s b' : List Char} {ms : List (String × List Char)} (blank : Blank b) (row : Row MemberText true s ms)
      (blank' : Blank b') : ObjectText (b ++ '\x7b' :: (s ++ '\x7d' :: b')) ms

/-! ## One member -/

/-- Whatever the slot takes is a value. -/
def Slot.TakesValues (slot : Slot α) : Prop :=
  ∀ {depth : Nat} {x : List Glyph} {f : α → α} {rest : List Glyph},
    Yields (slot.read depth x) f rest → ∃ v, Yields (value depth x) v rest

namespace Shape

/-- The names of the slots. -/
def names (shape : Shape α) : List String := shape.slots.map Slot.name

theorem find?_eq_none_iff : shape.slots.find? (·.name = name) = none ↔ name ∉ shape.names := by
  simp [names]

/-- A closing brace ends the record, if each slot that has to be given has been. -/
theorem yields_close (closed : shutBy '\x7d' x r) {h : x.length ≤ bound} :
    Yields (shape.fromObject depth given first record x h) a rest ↔
      (∀ slot ∈ shape.slots, slot.required = true → slot.name ∈ given) ∧ a = record ∧ rest = r := by
  have closes : nextKey first x = .ok (.close r (length_lt_of_shutBy closed)) := nextKey_close.2 closed
  rw [fromObject]
  simp only [closes]
  split
  · next slot missing =>
    refine iff_of_false not_yields_error fun ⟨all, _⟩ => ?_
    have absent := List.find?_some missing
    simp only [Bool.and_eq_true, Bool.not_eq_true', List.contains_eq_mem, decide_eq_false_iff_not] at absent
    exact absent.2 (all slot (List.mem_of_find?_eq_some missing) absent.1)
  · next complete =>
    have all : ∀ slot ∈ shape.slots, slot.required = true → slot.name ∈ given := by
      simpa using complete
    simp only [yields_ok, eq_true all, true_and]

section Entry

variable (opens : Opens first x (.char '"') r) (key : Yields (stringBody [] true r (length_le_self r)) name r')
  (shut : shutBy ':' r' k) {h : x.length ≤ bound}
include opens key shut

/-- A member without a slot is passed over. -/
theorem yields_other (other : name ∉ shape.names) :
    Yields (shape.fromObject depth given first record x h) a rest ↔
      ∃ y, Yields (skim k) () y ∧
        ∃ h' : y.length ≤ bound, Yields (shape.fromObject depth given false record y h') a rest := by
  have entry : nextKey first x = .ok (.entry r (length_le_of_cons_le (length_le_of_opens opens))) :=
    nextKey_entry.2 opens
  obtain ⟨p, body, rfl, rfl⟩ := key
  obtain ⟨q, colon, -, rfl⟩ := yields_colon.2 shut
  rw [fromObject]
  simp only [entry, body, colon, find?_eq_none_iff.2 other, Option.isSome_none, Bool.false_and, Bool.false_eq_true,
    if_false]
  constructor
  · intro found
    split at found
    · exact absurd found not_yields_error
    · next p skimmed => exact ⟨p.rest, ⟨p, skimmed, rfl, rfl⟩, _, found⟩
  · rintro ⟨_, ⟨p, skimmed, -, rfl⟩, _, found⟩
    simp only [skimmed]
    exact found

/-- A member with a slot changes the record as its reader says, if the slot has not been given yet. -/
theorem yields_own {slot : Slot α} (own : shape.slots.find? (·.name = name) = some slot) :
    Yields (shape.fromObject depth given first record x h) a rest ↔
      name ∉ given ∧ ∃ f y, Yields (slot.read depth k) f y ∧
        ∃ h' : y.length ≤ bound, Yields (shape.fromObject depth (name :: given) false (f record) y h') a rest := by
  have entry : nextKey first x = .ok (.entry r (length_le_of_cons_le (length_le_of_opens opens))) :=
    nextKey_entry.2 opens
  obtain ⟨p, body, rfl, rfl⟩ := key
  obtain ⟨q, colon, -, rfl⟩ := yields_colon.2 shut
  rw [fromObject]
  simp only [entry, body, colon, own, Option.isSome_some, Bool.true_and, List.contains_eq_mem, decide_eq_true_eq]
  split
  · next twice => exact iff_of_false not_yields_error fun found => found.1 twice
  next fresh =>
  constructor
  · intro found
    split at found
    · exact absurd found not_yields_error
    · next p taken => exact ⟨fresh, p.value, p.rest, ⟨p, taken, rfl, rfl⟩, _, found⟩
  · rintro ⟨-, _, _, ⟨p, taken, rfl, rfl⟩, _, found⟩
    simp only [taken]
    exact found

end Entry

end Shape

/-! ## Rows of members -/

theorem length_spread_self (s : List Char) : (spread (fun c => [c]) s).length = s.length := by
  simp [spread]

section Row

variable {b e s : List Char} {m : String × List Char} {ms : List (String × List Char)}

/-- A member stands open behind its gap, with its key, its colon and its value one behind another. -/
theorem MemberText.opens (member : MemberText e m) (gap : Gap first b) :
    ∃ r r' b', Blank b' ∧ Opens first (spread (fun c => [c]) (b ++ (e ++ s))) (.char '"') r ∧
      Yields (stringBody [] true r (length_le_self r)) m.1 r' ∧
        shutBy ':' r' (spread (fun c => [c]) (b' ++ (m.2 ++ s))) := by
  obtain ⟨spelled, blank, blank'⟩ := member
  obtain ⟨opens, colon⟩ := quiet_self.opens_member gap blank
  exact ⟨_, _, _, blank', opens, quiet_self.yields_of_stringSpelled spelled, colon⟩

namespace Shape

/-- The names of slots that the members have, in the order of the members. -/
def own (shape : Shape α) (ms : List (String × List Char)) : List String :=
  (ms.map Prod.fst).filter (· ∈ shape.names)

theorem own_cons_of_mem (known : m.1 ∈ shape.names) : shape.own (m :: ms) = m.1 :: shape.own ms := by
  simp [own, known]

theorem own_cons_of_notMem (other : m.1 ∉ shape.names) : shape.own (m :: ms) = shape.own ms := by
  simp [own, other]

theorem name_mem_names {slot : Slot α} (h : shape.slots.find? (·.name = name) = some slot) : name ∈ shape.names := by
  by_contra other
  rw [find?_eq_none_iff.2 other] at h
  cases h

/-- What a member does to the record, wherever the text of its value stands. -/
inductive Settles (shape : Shape α) (depth : Nat) (change : String → α → α) (m : String × List Char) : Prop where
  | other (unknown : m.1 ∉ shape.names) (same : change m.1 = id)
      (passed : ∀ {b s : List Char}, Blank b → Stops s →
        Skips (spread (fun c => [c]) (b ++ (m.2 ++ s))) (spread (fun c => [c]) s))
  | own {slot : Slot α} (known : shape.slots.find? (·.name = m.1) = some slot)
      (taken : ∀ {b s : List Char}, Blank b → Stops s →
        Yields (slot.read depth (spread (fun c => [c]) (b ++ (m.2 ++ s)))) (change m.1) (spread (fun c => [c]) s))

/-- A row of members makes all their changes in its order, if it names no slot twice and each that has to be
given. -/
theorem yields_row {change : String → α → α} (row : Row MemberText first e ms)
    (settled : ∀ m ∈ ms, shape.Settles depth change m) (once : (shape.own ms ++ given).Nodup)
    (complete : ∀ slot ∈ shape.slots, slot.required = true → slot.name ∈ shape.own ms ++ given)
    {h : (spread (fun c => [c]) (e ++ '\x7d' :: s)).length ≤ bound} :
    Yields (shape.fromObject depth given first record (spread (fun c => [c]) (e ++ '\x7d' :: s)) h)
      (ms.foldl (fun record m => change m.1 record) record) (spread (fun c => [c]) s) := by
  induction row generalizing given record with
  | stop blank =>
    have shuts : Shuts (fun c => [c]) '\x7d' (shutBy '\x7d') := quiet_self.shuts (by decide) (by decide)
    exact (yields_close (shuts.found blank)).2 ⟨complete, rfl, rfl⟩
  | @more first b e r m ms gap member tail ih =>
    have regroup : b ++ (e ++ r) ++ '\x7d' :: s = b ++ (e ++ (r ++ '\x7d' :: s)) := by simp
    revert h
    rw [regroup]
    intro h
    obtain ⟨here, later⟩ := List.forall_mem_cons.1 settled
    obtain ⟨x, y, b', blank, opens, key, colon⟩ := member.opens gap (s := r ++ '\x7d' :: s)
    have fits : (spread (fun c => [c]) (r ++ '\x7d' :: s)).length ≤ bound := by
      simp only [length_spread_self, List.length_append] at h ⊢
      omega
    have stops := tail.stops (s := s) (show Follower '\x7d' by decide)
    cases here with
    | other unknown same passed =>
      rw [own_cons_of_notMem unknown] at once complete
      rw [List.foldl_cons, same, yields_other opens key colon unknown]
      exact ⟨_, (passed blank stops).yields, fits, ih later once complete⟩
    | own known taken =>
      rw [own_cons_of_mem (name_mem_names known), List.cons_append] at once complete
      have fresh : m.1 ∉ given := fun old => (List.nodup_cons.1 once).1 (List.mem_append_right _ old)
      have moved : (shape.own ms ++ m.1 :: given).Perm (m.1 :: (shape.own ms ++ given)) := List.perm_middle
      rw [List.foldl_cons, yields_own opens key colon known]
      refine ⟨fresh, _, _, taken blank stops, fits, ih later (moved.nodup_iff.2 once) ?_⟩
      intro slot mem required
      exact moved.mem_iff.2 (complete slot mem required)

/-- A row of members that is read as a record names no slot twice. -/
theorem once_of_yields_row (row : Row MemberText first e ms) (formed : ∀ m ∈ ms, ∃ d, Formed d m.2)
    (values : ∀ slot ∈ shape.slots, slot.TakesValues) (once : given.Nodup)
    {h : (spread (fun c => [c]) (e ++ '\x7d' :: s)).length ≤ bound}
    (found : Yields (shape.fromObject depth given first record (spread (fun c => [c]) (e ++ '\x7d' :: s)) h) a rest) :
    (shape.own ms ++ given).Nodup := by
  induction row generalizing given record with
  | stop blank => exact once
  | @more first b e r m ms gap member tail ih =>
    have regroup : b ++ (e ++ r) ++ '\x7d' :: s = b ++ (e ++ (r ++ '\x7d' :: s)) := by simp
    revert h
    rw [regroup]
    intro h found
    obtain ⟨⟨d, here⟩, later⟩ := List.forall_mem_cons.1 formed
    obtain ⟨x, y, b', blank, opens, key, colon⟩ := member.opens gap (s := r ++ '\x7d' :: s)
    have skips := skips_of_formed here blank (tail.stops (s := s) (show Follower '\x7d' by decide))
    cases known : shape.slots.find? (·.name = m.1) with
    | none =>
      have unknown := find?_eq_none_iff.1 known
      obtain ⟨_, passed, _, found⟩ := (yields_other opens key colon unknown).1 found
      obtain rfl := skips.yields.rest_unique passed
      rw [own_cons_of_notMem unknown]
      exact ih later once found
    | some slot =>
      obtain ⟨fresh, f, _, taken, _, found⟩ := (yields_own opens key colon known).1 found
      obtain ⟨v, read⟩ := values slot (List.mem_of_find?_eq_some known) taken
      obtain rfl := skips.unique (skips_of_value read)
      have rest := ih later (List.nodup_cons.2 ⟨fresh, once⟩) found
      rw [own_cons_of_mem (name_mem_names known), List.cons_append]
      exact List.perm_middle.nodup_iff.1 rest

end Shape

end Row

/-! ## Whole texts -/

namespace Shape

theorem yields_reader_object (front : skipSpace x = .char '\x7b' :: r) :
    Yields (shape.reader (depth + 1) x) a rest ↔
      Yields (shape.fromObject depth [] true shape.blank r (rest_le_of_skipSpace front)) a rest := by
  unfold reader
  split
  · next none => cases none.symm.trans front
  · next found =>
    cases found.symm.trans front
    rw [if_neg (by decide), if_pos rfl]

variable {t : List Char} {ms : List (String × List Char)}

/-- An object text is read as the record with all its changes, if it names no slot twice and each that has to be
given. -/
theorem readWhole_of_objectText {change : String → α → α} (object : ObjectText t ms)
    (settled : ∀ m ∈ ms, shape.Settles (maxDepth - 1) change m) (once : (shape.own ms).Nodup)
    (complete : ∀ slot ∈ shape.slots, slot.required = true → slot.name ∈ shape.own ms) :
    shape.readWhole (spread (fun c => [c]) t) = .ok (ms.foldl (fun record m => change m.1 record) shape.blank) := by
  obtain @⟨b, e, b', _, blank, row, blank'⟩ := object
  have front := quiet_self.front (s := e ++ '\x7d' :: b') blank (show Starts '\x7b' from ⟨by decide, by decide⟩)
  refine finished_eq_ok.2 ⟨_, (yields_reader_object front).2 (yields_row row settled ?_ ?_), ?_⟩
  · rwa [List.append_nil]
  · rwa [List.append_nil]
  · have skipped := quiet_self.skipSpace_blank blank' []
    rwa [List.append_nil] at skipped

/-- An object text that is read as a record names no slot twice. -/
theorem once_of_readWhole (object : ObjectText t ms) (formed : ∀ m ∈ ms, ∃ d, Formed d m.2)
    (values : ∀ slot ∈ shape.slots, slot.TakesValues)
    (found : shape.readWhole (spread (fun c => [c]) t) = .ok a) : (shape.own ms).Nodup := by
  obtain @⟨b, e, b', _, blank, row, blank'⟩ := object
  have front := quiet_self.front (s := e ++ '\x7d' :: b') blank (show Starts '\x7b' from ⟨by decide, by decide⟩)
  obtain ⟨rest, found, -⟩ := finished_eq_ok.1 found
  have once := once_of_yields_row row formed values List.nodup_nil ((yields_reader_object front).1 found)
  rwa [List.append_nil] at once

end Shape

end CodeGate.Json
