import CodeGate.Settings.Load
import Mathlib.Data.List.Nodup

/-!
# Merging into the tree of settings

A value is written into the tree at the end of a path, and a table is merged with one that is there already. So what
an entry leaves at a place depends on what it finds; how it does is told here by what the entry would make of an
empty place. That is the same value if it has no parts. Of a list and of a table only so much is kept: that there is
one, and which keys it must have.
-/

namespace CodeGate.Settings

namespace Table

theorem get?_cons (k key : String) (value : Tree) (t : Table) :
    get? k ((key, value) :: t) = if key = k then some value else get? k t := by
  by_cases same : key = k <;> simp [get?, same]

theorem get?_put (key k : String) (value : Tree) (t : Table) :
    get? k (put key value t) = if key = k then some value else get? k t := by
  induction t with
  | nil => exact get?_cons k key value []
  | cons m t ih =>
    obtain ⟨k', v⟩ := m
    by_cases here : k' = key
    · subst here
      rw [put, if_pos rfl, get?_cons, get?_cons]
      split <;> rfl
    · rw [put, if_neg here, get?_cons, get?_cons, ih]
      by_cases same : k' = k
      · have other : key ≠ k := fun h => here (same.trans h.symm)
        rw [if_pos same, if_neg other, if_pos same]
      · rw [if_neg same, if_neg same]

/-- The keys of a table. -/
def keys (t : Table) : List String := t.map Prod.fst

theorem get?_of_not_mem {key : String} {t : Table} (missing : key ∉ keys t) : get? key t = none := by
  induction t with
  | nil => rfl
  | cons m t ih =>
    obtain ⟨here, missing⟩ := not_or.1 (mt List.mem_cons.2 missing)
    rw [get?_cons, if_neg (Ne.symm here), ih missing]

theorem keys_put (key : String) (value : Tree) (t : Table) :
    keys (put key value t) = if key ∈ keys t then keys t else keys t ++ [key] := by
  induction t with
  | nil => rfl
  | cons m t ih =>
    obtain ⟨k, v⟩ := m
    by_cases here : k = key
    · simp [put, keys, here]
    · have other : key ∈ keys ((k, v) :: t) ↔ key ∈ keys t := by
        simp [keys, Ne.symm here]
      rw [put, if_neg here]
      change k :: keys (put key value t) = _
      simp only [ih, other]
      split <;> rfl

theorem mem_keys_put {key k : String} {value : Tree} {t : Table} :
    k ∈ keys (put key value t) ↔ k = key ∨ k ∈ keys t := by
  rw [keys_put]
  split
  · next inside => exact ⟨.inr, fun h => h.elim (fun same => same ▸ inside) id⟩
  · rw [List.mem_append, List.mem_singleton, or_comm]

theorem nodup_keys_put {key : String} {value : Tree} {t : Table} (distinct : (keys t).Nodup) :
    (keys (put key value t)).Nodup := by
  rw [keys_put]
  split
  · exact distinct
  · next outside => exact List.Nodup.append distinct (List.nodup_singleton key) (by simpa using outside)

end Table

namespace Tree

theorem members_withMembers (ms : Table) (t : Tree) : (withMembers ms t).members = ms := by
  cases t <;> rfl

theorem exists_withMembers (ms : Table) (t : Tree) : ∃ origin, withMembers ms t = .table origin ms := by
  cases t <;> exact ⟨_, rfl⟩

/-- A tree with a change made to what is at a key. -/
def alterKey (key : String) (change : Option Tree → Tree) (t : Tree) : Tree :=
  withMembers (Table.put key (change (Table.get? key t.members)) t.members) t

theorem get?_members_alterKey (key k : String) (change : Option Tree → Tree) (t : Tree) :
    Table.get? k (alterKey key change t).members =
      if key = k then some (change (Table.get? k t.members)) else Table.get? k t.members := by
  rw [alterKey, members_withMembers, Table.get?_put]
  split
  · next same => rw [same]
  · rfl

/-- What is at a key when a value has been planted there: a table is merged into what is there. -/
def planted : (value : Tree) → Option Tree → Tree
  | table _ incoming, found => setMembers incoming (found.getD empty)
  | value, _ => value

/-- What is at a key when a value has been set at the end of a path from there. -/
def placed : (path : List Step) → (value : Tree) → Option Tree → Tree
  | [], value, found => planted value found
  | path, value, found => set path value (found.getD absent)

theorem placed_cons (step : Step) (path : List Step) (value : Tree) (found : Option Tree) :
    placed (step :: path) value found = set (step :: path) value (found.getD absent) :=
  rfl

theorem setKey_eq (key : String) (value t : Tree) :
    setKey key value t = alterKey (Text.lower key) (planted value) t := by
  cases value with
  | scalar origin value => simp only [setKey]; rfl
  | list origin items => simp only [setKey]; rfl
  | table origin incoming => rw [setKey]; rfl

theorem set_key_eq (key : String) (path : List Step) (value t : Tree) :
    set (.key key :: path) value t = alterKey (Text.lower key) (placed path value) t := by
  cases path with
  | nil => exact setKey_eq key value t
  | cons step path => rfl

theorem setMembers_cons (m : String × Tree) (ms : List (String × Tree)) (t : Tree) :
    setMembers (m :: ms) t = setMembers ms (alterKey (Text.lower m.1) (planted m.2) t) := by
  rw [setMembers, setKey_eq]

theorem exists_set_item (place : Int) (path : List Step) (value t : Tree) :
    ∃ origin items, set (.item place :: path) value t = .list origin items := by
  cases t <;> exact ⟨_, _, rfl⟩

end Tree

theorem Step.pathOf_eq (key : String) : ∃ name path, Step.pathOf key = .key name :: path := by
  simp only [Step.pathOf]
  split
  · exact ⟨_, _, rfl⟩
  · exact ⟨_, _, rfl⟩

open CodeGate.Settings.Tree

/-- What an entry that makes one thing of an empty place makes of another place: the same value without parts, some
list for a list, and for a table one that has its keys. -/
inductive Agrees : (fresh found : Tree) → Prop where
  | scalar (origin : Option Origin) (value : Scalar) : Agrees (.scalar origin value) (.scalar origin value)
  | list {origin origin' : Option Origin} {items items' : List Tree} :
      Agrees (.list origin items) (.list origin' items')
  | table {origin origin' : Option Origin} {ms ms' : Table} (some : ms ≠ []) (distinct : (Table.keys ms).Nodup)
      (kept : ∀ key ∈ Table.keys ms, key ∈ Table.keys ms') : Agrees (.table origin ms) (.table origin' ms')

/-- What an entry leaves at a place where `before` was, by what it makes of an empty place. -/
inductive Lays (before : Option Tree) : (fresh after : Option Tree) → Prop where
  | nothing : Lays before none before
  | room {origin : Option Origin} :
      Lays before (some (.table origin [])) (some (before.getD (.table origin [])))
  | value {fresh found : Tree} (agrees : Agrees fresh found) : Lays before (some fresh) (some found)

/-! ### Planting -/

theorem mem_keys_setMembers {key : String} (incoming : List (String × Tree)) (t : Tree) :
    key ∈ Table.keys (setMembers incoming t).members ↔
      key ∈ Table.keys t.members ∨ ∃ m ∈ incoming, Text.lower m.1 = key := by
  induction incoming generalizing t with
  | nil => simp [setMembers]
  | cons m incoming ih =>
    rw [setMembers_cons, ih, alterKey, members_withMembers, Table.mem_keys_put]
    simp only [List.mem_cons, exists_eq_or_imp]
    rw [@eq_comm _ key, or_assoc, or_left_comm]

theorem nodup_keys_setMembers (incoming : List (String × Tree)) {t : Tree}
    (distinct : (Table.keys t.members).Nodup) : (Table.keys (setMembers incoming t).members).Nodup := by
  induction incoming generalizing t with
  | nil => rwa [setMembers]
  | cons m incoming ih =>
    rw [setMembers_cons]
    apply ih
    rw [alterKey, members_withMembers]
    exact Table.nodup_keys_put distinct

theorem exists_setMembers (m : String × Tree) (incoming : List (String × Tree)) (t : Tree) :
    ∃ origin ms, setMembers (m :: incoming) t = .table origin ms := by
  induction incoming generalizing m t with
  | nil =>
    rw [setMembers_cons, setMembers]
    obtain ⟨origin, made⟩ := exists_withMembers _ t
    exact ⟨origin, _, made⟩
  | cons m' incoming ih =>
    rw [setMembers_cons]
    exact ih m' _

/-- Two tables that are merged from the same members, one from fewer keys, agree. -/
theorem agrees_setMembers (m : String × Tree) (incoming : List (String × Tree)) {fresh found : Tree}
    (distinct : (Table.keys fresh.members).Nodup)
    (kept : ∀ key ∈ Table.keys fresh.members, key ∈ Table.keys found.members) :
    Agrees (setMembers (m :: incoming) fresh) (setMembers (m :: incoming) found) := by
  have distinct' := nodup_keys_setMembers (m :: incoming) distinct
  have keys (t : Tree) (key : String) := @mem_keys_setMembers key (m :: incoming) t
  have keysFresh := keys fresh
  have keysFound := keys found
  obtain ⟨origin, ms, made⟩ := exists_setMembers m incoming fresh
  obtain ⟨origin', ms', made'⟩ := exists_setMembers m incoming found
  rw [made] at distinct' keysFresh ⊢
  rw [made'] at keysFound ⊢
  refine .table ?_ distinct' fun key inside => ?_
  · rintro rfl
    exact absurd ((keysFresh (Text.lower m.1)).2 (.inr ⟨m, List.mem_cons_self, rfl⟩)) (by simp [members, Table.keys])
  · exact (keysFound key).2 (((keysFresh key).1 inside).imp_left (kept key))

theorem Lays.keys {before fresh? after? : Option Tree} (h : Lays before fresh? after?) :
    (Table.keys (fresh?.getD empty).members).Nodup ∧
      ∀ key ∈ Table.keys (fresh?.getD empty).members, key ∈ Table.keys (after?.getD empty).members := by
  cases h with
  | nothing => exact ⟨List.nodup_nil, nofun⟩
  | room => exact ⟨List.nodup_nil, nofun⟩
  | value agrees =>
    cases agrees with
    | scalar origin value => exact ⟨List.nodup_nil, nofun⟩
    | list => exact ⟨List.nodup_nil, nofun⟩
    | table _ distinct kept => exact ⟨distinct, kept⟩

theorem lays_planted (value : Tree) {before fresh? after? : Option Tree} (h : Lays before fresh? after?) :
    Lays before (some (planted value fresh?)) (some (planted value after?)) := by
  cases value with
  | scalar origin value => exact .value (.scalar origin value)
  | list origin items => exact .value .list
  | table origin incoming =>
    cases incoming with
    | nil =>
      simp only [planted, setMembers]
      cases h with
      | nothing => exact .room
      | room => exact .room
      | value agrees => exact .value agrees
    | cons m incoming => exact .value (agrees_setMembers m incoming h.keys.1 h.keys.2)

/-- A table that a change makes of nothing has no key but the changed one. -/
theorem agrees_alterKey (key : String) (change : Option Tree → Tree) (t : Tree) :
    Agrees (alterKey key change absent) (alterKey key change t) := by
  obtain ⟨origin, made⟩ := exists_withMembers (Table.put key (change (Table.get? key t.members)) t.members) t
  rw [alterKey, alterKey, made]
  refine .table (List.cons_ne_nil _ _) (List.nodup_singleton key) fun k inside => ?_
  exact Table.mem_keys_put.2 (.inl (List.mem_singleton.1 inside))

theorem lays_placed (path : List Step) (value : Tree) (before : Option Tree) :
    Lays before (some (placed path value none)) (some (placed path value before)) := by
  cases path with
  | nil => exact lays_planted value .nothing
  | cons step path =>
    cases step with
    | key name =>
      rw [placed_cons, placed_cons, set_key_eq, set_key_eq]
      exact .value (agrees_alterKey _ _ _)
    | item place =>
      obtain ⟨origin, items, made⟩ := exists_set_item place path value absent
      obtain ⟨origin', items', made'⟩ := exists_set_item place path value (before.getD absent)
      rw [placed_cons, placed_cons, Option.getD_none, made, made']
      exact .value .list

/-! ### What an entry makes of a section -/

theorem lays_setMembers (key : String) (incoming : List (String × Tree)) {before : Option Tree} {fresh after : Tree}
    (h : Lays before (Table.get? key fresh.members) (Table.get? key after.members)) :
    Lays before (Table.get? key (setMembers incoming fresh).members)
      (Table.get? key (setMembers incoming after).members) := by
  induction incoming generalizing fresh after with
  | nil => rwa [setMembers, setMembers]
  | cons m incoming ih =>
    rw [setMembers_cons, setMembers_cons]
    apply ih
    rw [get?_members_alterKey, get?_members_alterKey]
    split
    · exact lays_planted m.2 h
    · exact h

/-! ### What an entry makes of the root -/

theorem lays_set (sect : String) (entry : String × Tree) (root : Tree) :
    Lays (Table.get? sect root.members) (Table.get? sect (Tree.set (Step.pathOf entry.1) entry.2 empty).members)
      (Table.get? sect (Tree.set (Step.pathOf entry.1) entry.2 root).members) := by
  obtain ⟨name, path, split⟩ := Step.pathOf_eq entry.1
  rw [split, set_key_eq, set_key_eq, get?_members_alterKey, get?_members_alterKey]
  by_cases here : Text.lower name = sect
  · rw [if_pos here, if_pos here]
    exact lays_placed path entry.2 _
  · rw [if_neg here, if_neg here]
    exact .nothing

theorem Lays.list {before fresh after : Option Tree} {origin : Option Origin} {items : List Tree}
    (h : Lays before fresh after) (left : after = some (.list origin items)) :
    before = some (.list origin items) ∨ ∃ origin' items', fresh = some (.list origin' items') := by
  cases h with
  | nothing => exact .inl left
  | room =>
    cases before with
    | none => cases left
    | some t => exact .inl left
  | value agrees =>
    cases left
    cases agrees with
    | list => exact .inr ⟨_, _, rfl⟩

end CodeGate.Settings
