import CodeGate.Json.Value
import Mathlib.Data.List.Sort

/-!
# The laws of members

What is found at a key after members are inserted, erased or taken from pairs. The laws of `get?` need
no order of the members; where a row is asked for its members themselves, its keys have to ascend, as
`insert` keeps them.
-/

namespace CodeGate.Json.Members

variable {key other : String} {v w : Value} {ms ns : Members}

/-! ## Reading at a key -/

@[simp] theorem get?_insert_self (key : String) (v : Value) (ms : Members) :
    get? key (insert key v ms) = some v := by
  induction ms with
  | nil => simp [insert, get?]
  | cons m ms ih =>
    obtain ⟨k, u⟩ := m
    unfold insert
    split
    · next below =>
      have differ : k ≠ key := fun same => String.lt_irrefl key (same ▸ below)
      simp [get?, differ, ih]
    · split <;> simp [get?]

theorem get?_insert_of_ne (h : other ≠ key) (v : Value) (ms : Members) :
    get? other (insert key v ms) = get? other ms := by
  induction ms with
  | nil => simp [insert, get?, h.symm]
  | cons m ms ih =>
    obtain ⟨k, u⟩ := m
    unfold insert
    split
    · simp only [get?, ih]
    · split
      · next same => subst same; simp [get?, h.symm]
      · simp [get?, h.symm]

theorem insert_cons_self (key : String) (v w : Value) (ms : Members) :
    insert key w ((key, v) :: ms) = (key, w) :: ms := by
  rw [insert, if_neg (String.lt_irrefl key), if_pos rfl]

/-- The later of two values for one key is the one that stays. -/
@[simp] theorem insert_insert (key : String) (v w : Value) (ms : Members) :
    insert key w (insert key v ms) = insert key w ms := by
  induction ms with
  | nil => exact insert_cons_self key v w []
  | cons m ms ih =>
    obtain ⟨k, u⟩ := m
    by_cases below : k < key
    · simp [insert, below, ih]
    · by_cases same : k = key
      · subst same
        rw [insert_cons_self, insert_cons_self, insert_cons_self]
      · have here : ∀ x, insert key x ((k, u) :: ms) = (key, x) :: (k, u) :: ms := by
          intro x
          rw [insert, if_neg below, if_neg same]
        rw [here, here, insert_cons_self]

@[simp] theorem get?_erase_self (key : String) (ms : Members) : get? key (erase key ms) = none := by
  induction ms with
  | nil => rfl
  | cons m ms ih =>
    obtain ⟨k, u⟩ := m
    by_cases same : k = key
    · simpa [erase, same] using ih
    · simpa [erase, get?, same] using ih

theorem get?_erase_of_ne (h : other ≠ key) (ms : Members) : get? other (erase key ms) = get? other ms := by
  induction ms with
  | nil => rfl
  | cons m ms ih =>
    obtain ⟨k, u⟩ := m
    by_cases same : k = key
    · subst same
      simpa [erase, get?, h.symm] using ih
    · simp only [erase, get?, List.filter_cons, ne_eq, same, not_false_eq_true, decide_true, if_true]
      exact congrArg _ ih

theorem mem_of_get? (h : get? key ms = some v) : (key, v) ∈ ms := by
  induction ms with
  | nil => cases h
  | cons m ms ih =>
    obtain ⟨k, u⟩ := m
    by_cases same : k = key
    · subst same
      obtain rfl : u = v := by simpa [get?] using h
      exact List.mem_cons_self
    · have later : get? key ms = some v := by simpa [get?, same] using h
      exact List.mem_cons_of_mem _ (ih later)

theorem get?_eq_none_iff : get? key ms = none ↔ ∀ m ∈ ms, m.1 ≠ key := by
  induction ms with
  | nil => simp [get?]
  | cons m ms ih =>
    by_cases same : m.1 = key
    · simp [get?, same]
    · simp [get?, same, ih]

@[simp] theorem erase_erase (key : String) (ms : Members) : erase key (erase key ms) = erase key ms := by
  simp [erase]

/-! ## Rows whose keys ascend -/

/-- The keys of the members ascend strictly. -/
def Ascending (ms : Members) : Prop := (ms.map Prod.fst).Pairwise (· < ·)

instance : DecidablePred Ascending := fun ms =>
  inferInstanceAs (Decidable ((ms.map Prod.fst).Pairwise (· < ·)))

theorem ascending_cons {m : String × Value} :
    Ascending (m :: ms) ↔ (∀ n ∈ ms, m.1 < n.1) ∧ Ascending ms := by
  simp [Ascending, List.pairwise_cons]

theorem mem_of_mem_insert {m : String × Value} (h : m ∈ insert key v ms) : m = (key, v) ∨ m ∈ ms := by
  induction ms with
  | nil => simpa [insert] using h
  | cons n ms ih =>
    obtain ⟨k, u⟩ := n
    unfold insert at h
    split at h
    · rcases List.mem_cons.1 h with rfl | h
      · exact .inr List.mem_cons_self
      · exact (ih h).imp_right (List.mem_cons_of_mem _)
    · split at h
      · exact (List.mem_cons.1 h).imp_right (List.mem_cons_of_mem _)
      · exact List.mem_cons.1 h

theorem Ascending.insert (h : Ascending ms) (key : String) (v : Value) : Ascending (insert key v ms) := by
  induction ms with
  | nil => simp [Members.insert, Ascending]
  | cons m ms ih =>
    obtain ⟨k, u⟩ := m
    obtain ⟨above, rest⟩ := ascending_cons.1 h
    unfold Members.insert
    split
    · next below =>
      refine ascending_cons.2 ⟨fun n hn => ?_, ih rest⟩
      rcases mem_of_mem_insert hn with rfl | hn
      · exact below
      · exact above n hn
    · next notBelow =>
      split
      · next same => exact ascending_cons.2 ⟨same ▸ above, rest⟩
      · next differ =>
        have greater : key < k := Std.lt_of_le_of_ne notBelow (Ne.symm differ)
        refine ascending_cons.2 ⟨fun n hn => ?_, h⟩
        rcases List.mem_cons.1 hn with rfl | hn
        · exact greater
        · exact String.lt_trans greater (above n hn)

theorem Ascending.erase (h : Ascending ms) (key : String) : Ascending (erase key ms) :=
  List.Pairwise.sublist (List.filter_sublist.map Prod.fst) h

/-- In an ascending row every member is the one found at its key. -/
theorem Ascending.mem_iff (h : Ascending ms) {m : String × Value} : m ∈ ms ↔ get? m.1 ms = some m.2 := by
  induction ms with
  | nil => simp [get?]
  | cons n ms ih =>
    obtain ⟨k, u⟩ := n
    obtain ⟨above, rest⟩ := ascending_cons.1 h
    rw [List.mem_cons, ih rest]
    by_cases same : k = m.1
    · have absent : get? m.1 ms ≠ some m.2 := fun found =>
        String.lt_irrefl k (by simpa [same] using above m ((ih rest).2 found))
      simp [get?, same, absent, Prod.ext_iff, eq_comm]
    · have differ : m ≠ (k, u) := fun e => same (by rw [e])
      simp [get?, same, differ]

/-- Ascending rows in which the same is found at every key are the same. -/
theorem Ascending.ext (hm : Ascending ms) (hn : Ascending ns) (same : ∀ key, get? key ms = get? key ns) :
    ms = ns := by
  have irrefl : Std.Irrefl fun m n : String × Value => m.1 < n.1 := ⟨fun m => String.lt_irrefl m.1⟩
  have antisymm : Std.Antisymm fun m n : String × Value => m.1 < n.1 :=
    ⟨fun m n below above => absurd (String.lt_trans below above) (String.lt_irrefl m.1)⟩
  apply List.Pairwise.eq_of_mem_iff (List.pairwise_map.1 hm) (List.pairwise_map.1 hn)
  intro m
  rw [hm.mem_iff, hn.mem_iff, same]

/-! ## Pairs taken in their order -/

/-- The value of the last pair with the key. -/
def last? (key : String) (pairs : List (String × Value)) : Option Value :=
  (pairs.reverse.find? fun p => p.1 = key).map Prod.snd

theorem last?_cons (p : String × Value) (pairs : List (String × Value)) :
    last? key (p :: pairs) = (last? key pairs).or (if p.1 = key then some p.2 else none) := by
  by_cases same : p.1 = key <;> simp [last?, List.find?_append, same]

theorem last?_append (pairs more : List (String × Value)) :
    last? key (pairs ++ more) = (last? key more).or (last? key pairs) := by
  simp [last?, Option.map_or]

theorem get?_foldl_insert (pairs : List (String × Value)) (ms : Members) :
    get? key (pairs.foldl (fun ms m => insert m.1 m.2 ms) ms) = (last? key pairs).or (get? key ms) := by
  induction pairs generalizing ms with
  | nil => simp [last?]
  | cons p pairs ih =>
    rw [List.foldl_cons, ih, last?_cons]
    by_cases same : p.1 = key
    · subst same; simp
    · simp [same, get?_insert_of_ne (Ne.symm same)]

/-- Of equal keys the last wins. -/
theorem get?_ofList (key : String) (pairs : List (String × Value)) :
    get? key (ofList pairs) = last? key pairs := by
  rw [ofList, get?_foldl_insert]
  simp [get?]

theorem ascending_foldl_insert (pairs : List (String × Value)) (h : Ascending ms) :
    Ascending (pairs.foldl (fun ms m => insert m.1 m.2 ms) ms) := by
  induction pairs generalizing ms with
  | nil => exact h
  | cons p pairs ih => exact ih (h.insert p.1 p.2)

theorem ascending_ofList (pairs : List (String × Value)) : Ascending (ofList pairs) :=
  ascending_foldl_insert pairs List.Pairwise.nil

theorem last?_eq_none_iff (pairs : List (String × Value)) :
    last? key pairs = none ↔ ∀ p ∈ pairs, p.1 ≠ key := by
  simp [last?]

/-- Among pairs with distinct keys each is the last one with its key. -/
theorem last?_eq_some_iff {pairs : List (String × Value)} (distinct : (pairs.map Prod.fst).Nodup) :
    last? key pairs = some v ↔ (key, v) ∈ pairs := by
  induction pairs with
  | nil => simp [last?]
  | cons p pairs ih =>
    obtain ⟨new, later⟩ := List.nodup_cons.1 distinct
    rw [last?_cons, List.mem_cons]
    by_cases same : p.1 = key
    · have absent : last? key pairs = none := by
        rw [last?_eq_none_iff]
        exact fun q hq again => new (List.mem_map.2 ⟨q, hq, again.trans same.symm⟩)
      have notLater : (key, v) ∉ pairs := fun hv => (last?_eq_none_iff pairs).1 absent _ hv rfl
      simp [absent, same, notLater, Prod.ext_iff, eq_comm]
    · have differ : (key, v) ≠ p := fun e => same (by rw [← e])
      simp [same, differ, ih later]

/-- The order of pairs with distinct keys does not matter. -/
theorem last?_perm {pairs order : List (String × Value)} (distinct : (pairs.map Prod.fst).Nodup)
    (perm : order.Perm pairs) (key : String) : last? key order = last? key pairs := by
  have distinctToo : (order.map Prod.fst).Nodup := (perm.map Prod.fst).nodup_iff.2 distinct
  apply Option.ext
  intro v
  rw [last?_eq_some_iff distinctToo, last?_eq_some_iff distinct, perm.mem_iff]

theorem Ascending.distinct (h : Ascending ms) : (ms.map Prod.fst).Nodup := by
  apply List.Pairwise.imp _ h
  rintro k _ below rfl
  exact String.lt_irrefl k below

/-- In an ascending row no key comes again, so the first member with a key is the last one. -/
theorem Ascending.last?_eq (h : Ascending ms) (key : String) : last? key ms = get? key ms := by
  apply Option.ext
  intro v
  rw [last?_eq_some_iff h.distinct]
  exact h.mem_iff

theorem mem_ofList_iff (pairs : List (String × Value)) (m : String × Value) :
    m ∈ ofList pairs ↔ last? m.1 pairs = some m.2 := by
  rw [(ascending_ofList pairs).mem_iff, get?_ofList]

/-- What holds of all members: of the first pair if no later one has its key, and of those of the others. -/
theorem forall_mem_ofList_cons (p : String × Value) (pairs : List (String × Value))
    (P : String × Value → Prop) :
    (∀ m ∈ ofList (p :: pairs), P m) ↔
      (p.1 ∈ pairs.map Prod.fst ∨ P p) ∧ ∀ m ∈ ofList pairs, P m := by
  have absent : last? p.1 pairs = none ↔ p.1 ∉ pairs.map Prod.fst := by
    rw [last?_eq_none_iff, List.mem_map]
    exact ⟨fun all ⟨q, hq, e⟩ => all q hq e, fun no q hq e => no ⟨q, hq, e⟩⟩
  simp only [mem_ofList_iff, last?_cons]
  constructor
  · intro all
    refine ⟨?_, fun m hm => all m (by rw [hm]; rfl)⟩
    by_cases later : p.1 ∈ pairs.map Prod.fst
    · exact .inl later
    · exact .inr (all p (by simp [absent.2 later]))
  · rintro ⟨first, rest⟩ m hm
    cases found : last? m.1 pairs with
    | some v =>
      rw [found] at hm
      exact rest m (found.trans hm)
    | none =>
      rw [found, Option.none_or, Option.ite_none_right_eq_some] at hm
      obtain ⟨key, value⟩ := hm
      obtain rfl : p = m := Prod.ext key (Option.some.inj value)
      exact first.resolve_left (absent.1 found)

end CodeGate.Json.Members
