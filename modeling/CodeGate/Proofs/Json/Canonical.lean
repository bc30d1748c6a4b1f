import CodeGate.Proofs.Json.Grammar
import CodeGate.Proofs.Json.Members

/-!
# Canonical values

In a canonical value the keys of every object ascend. Whatever is taken out of a canonical value or put
into one is canonical if the parts are, and so is what a tree of a text is worth.
-/

namespace CodeGate.Json

variable {key : String} {v w : Value} {ms : Members}

namespace Value

theorem canonicalItems_iff (vs : List Value) : CanonicalItems vs ↔ ∀ v ∈ vs, v.Canonical := by
  induction vs with
  | nil => simp [CanonicalItems]
  | cons v vs ih => rw [CanonicalItems, ih, List.forall_mem_cons]

theorem canonicalMembers_iff (ms : Members) : CanonicalMembers ms ↔ ∀ m ∈ ms, m.2.Canonical := by
  induction ms with
  | nil => simp [CanonicalMembers]
  | cons m ms ih => rw [CanonicalMembers, ih, List.forall_mem_cons]

theorem canonical_object_iff :
    (object ms).Canonical ↔ Members.Ascending ms ∧ ∀ m ∈ ms, m.2.Canonical := by
  rw [Canonical, canonicalMembers_iff]
  rfl

mutual

/-- Whether a value is canonical is decided object by object. -/
def decideCanonical : (v : Value) → Decidable v.Canonical
  | null | bool _ | number _ | string _ => isTrue trivial
  | list items => decideCanonicalItems items
  | object ms =>
    have := decideCanonicalMembers ms
    inferInstanceAs (Decidable ((ms.map Prod.fst).Pairwise (· < ·) ∧ CanonicalMembers ms))

/-- Whether every value of a list is canonical. -/
def decideCanonicalItems : (vs : List Value) → Decidable (CanonicalItems vs)
  | [] => isTrue trivial
  | v :: vs =>
    have := decideCanonical v
    have := decideCanonicalItems vs
    inferInstanceAs (Decidable (v.Canonical ∧ CanonicalItems vs))

/-- Whether every value of the members is canonical. -/
def decideCanonicalMembers : (ms : List (String × Value)) → Decidable (CanonicalMembers ms)
  | [] => isTrue trivial
  | (_, v) :: ms =>
    have := decideCanonical v
    have := decideCanonicalMembers ms
    inferInstanceAs (Decidable (v.Canonical ∧ CanonicalMembers ms))

end

instance : DecidablePred Canonical := decideCanonical

/-! ## Taking out -/

/-- The members of a canonical value make a canonical object; a value that is no object has none. -/
theorem Canonical.members (h : v.Canonical) : (object v.members).Canonical := by
  cases v with
  | object ms => exact h
  | _ => exact canonical_object_iff.2 ⟨List.Pairwise.nil, nofun⟩

theorem Canonical.ascending (h : v.Canonical) : Members.Ascending v.members :=
  (canonical_object_iff.1 h.members).1

theorem Canonical.get? (h : v.Canonical) (found : Members.get? key v.members = some w) : w.Canonical :=
  (canonical_object_iff.1 h.members).2 _ (Members.mem_of_get? found)

/-- What is found at a key is canonical, also if a missing value is taken as null. -/
theorem Canonical.getD (h : v.Canonical) (key : String) :
    ((Members.get? key v.members).getD .null).Canonical := by
  cases found : Members.get? key v.members with
  | none => trivial
  | some w => exact h.get? found

/-! ## Putting in -/

theorem Canonical.insert (h : (object ms).Canonical) (key : String) (hv : v.Canonical) :
    (object (Members.insert key v ms)).Canonical := by
  obtain ⟨ascending, each⟩ := canonical_object_iff.1 h
  apply canonical_object_iff.2
  refine ⟨ascending.insert key v, fun m hm => ?_⟩
  rcases Members.mem_of_mem_insert hm with rfl | old
  · exact hv
  · exact each m old

theorem Canonical.erase (h : (object ms).Canonical) (key : String) :
    (object (Members.erase key ms)).Canonical := by
  obtain ⟨ascending, each⟩ := canonical_object_iff.1 h
  apply canonical_object_iff.2
  exact ⟨Members.Ascending.erase ascending key, fun m hm => each m (List.mem_filter.1 hm).1⟩

theorem canonical_ofList {pairs : List (String × Value)} (h : ∀ m ∈ pairs, m.2.Canonical) :
    (object (Members.ofList pairs)).Canonical := by
  have grows : ∀ ms, (object ms).Canonical →
      (object (pairs.foldl (fun ms m => Members.insert m.1 m.2 ms) ms)).Canonical := by
    induction pairs with
    | nil => exact fun ms hms => hms
    | cons m pairs ih =>
      obtain ⟨first, later⟩ := List.forall_mem_cons.1 h
      exact fun ms hms => ih later _ (hms.insert m.1 first)
  exact grows [] (canonical_object_iff.2 ⟨List.Pairwise.nil, nofun⟩)

end Value

/-! ## What is read -/

variable (put : Char → List Char)

mutual

theorem canonical_value : (t : Written) → (t.value put).Canonical
  | .null | .bool _ | .number _ | .string _ => by simp [Written.value, Value.Canonical]
  | .list items => by
    rw [Written.value, Value.Canonical, Value.canonicalItems_iff]
    exact canonical_valueItems items
  | .object ms => by
    rw [Written.value]
    exact Value.canonical_ofList (canonical_valueMembers ms)

theorem canonical_valueItems : (ts : List Written) → ∀ v ∈ Written.valueItems put ts, v.Canonical
  | [] => nofun
  | t :: ts => List.forall_mem_cons.2 ⟨canonical_value t, canonical_valueItems ts⟩

theorem canonical_valueMembers :
    (ms : List (List Mark × Written)) → ∀ m ∈ Written.valueMembers put ms, m.2.Canonical
  | [] => nofun
  | (_, t) :: ms => List.forall_mem_cons.2 ⟨canonical_value t, canonical_valueMembers ms⟩

end

end CodeGate.Json
