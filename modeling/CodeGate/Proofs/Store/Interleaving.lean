import CodeGate.Proofs.Store.Edit
import CodeGate.Store.Memory

/-!
# Writers side by side

Two writes at places apart commute as whole trees. So writers whose places are apart from each other's
may take turns in any way: as long as each makes its own writes in their order, the tree at the end is the
same. The turn of one writer is moved to the front of a schedule past the turns of the others, and the
rest is an interleaving of what is left.
-/

namespace CodeGate.Store

open CodeGate.Json CodeGate.Store.Tree

/-! ## Writes as edits -/

namespace Write

/-- The keys on the way to the node that is written. -/
def place : Write → List String
  | update path _ => segments path
  | set path _ => segments path

/-- What a write does at its place. -/
def edit : Write → Edit
  | update _ fields => .change fun node => .object (mergeMembers fields node.members)
  | set _ value => if value = .null then .remove else .change fun _ => value

/-- A write of canonical fields, or of a canonical value. -/
def Canonical : Write → Prop
  | update _ fields => (Value.object fields).Canonical
  | set _ value => value.Canonical

instance : DecidablePred Canonical
  | update _ fields => inferInstanceAs (Decidable (Value.object fields).Canonical)
  | set _ value => inferInstanceAs (Decidable value.Canonical)

/-- The tree after a write. -/
def apply (w : Write) (tree : Tree) : Tree := w.edit.make w.place tree

end Write

variable {tree : Tree} {w : Write}

/-- A write with a place below the root succeeds. -/
theorem Memory.perform_eq (rooted : w.place ≠ []) (tree : Tree) : perform w tree = .ok (w.apply tree) := by
  cases w with
  | update path fields =>
    have below : segments path ≠ [] := rooted
    simp only [perform, Memory.update, if_neg below]
    rfl
  | set path value =>
    have below : segments path ≠ [] := rooted
    simp only [perform, Memory.set, if_neg below, Tree.set, Write.apply, Write.edit, Write.place]
    split <;> rfl

/-- A write at the root is refused. -/
theorem Memory.perform_root (root : w.place = []) (tree : Tree) :
    ∃ refusal, perform w tree = .error refusal := by
  cases w with
  | update path fields => exact ⟨_, if_pos root⟩
  | set path value => exact ⟨_, if_pos root⟩

theorem canonical_mergeMembers {fields ms : Members} (hf : (Value.object fields).Canonical)
    (hm : (Value.object ms).Canonical) : (Value.object (mergeMembers fields ms)).Canonical := by
  have each := (Value.canonical_object_iff.1 hf).2
  apply mergeMembers_keeps (P := fun ms => (Value.object ms).Canonical) _ _ hm
  · exact fun key ms canonical => canonical.erase key
  · exact fun f mem _ ms canonical => canonical.insert f.1 (each f mem)

theorem Write.Canonical.sound (h : w.Canonical) : w.edit.Sound := by
  cases w with
  | update path fields => exact fun v hv => canonical_mergeMembers h hv.members
  | set path value =>
    simp only [Write.edit]
    split
    · trivial
    · exact fun _ _ => h

theorem Write.Canonical.apply (h : w.Canonical) (canonical : Value.Canonical tree) :
    Value.Canonical (w.apply tree) :=
  h.sound.canonical_make _ canonical

theorem apply_comm {v : Write} (apart : Apart v.place w.place) (canonical : Value.Canonical tree) :
    v.apply (w.apply tree) = w.apply (v.apply tree) :=
  Edit.make_comm v.edit w.edit apart canonical

/-! ## Rows of writes -/

/-- The tree after writes one after another. -/
def applyAll (writes : List Write) (tree : Tree) : Tree := writes.foldl (fun tree w => w.apply tree) tree

/-- Does writes one after another, up to the first that is refused. -/
def Memory.performAll : List Write → Tree → Except Memory.InvalidPath Tree
  | [], tree => .ok tree
  | w :: writes, tree => (perform w tree).bind (performAll writes)

theorem Memory.performAll_eq {writes : List Write} (rooted : ∀ w ∈ writes, w.place ≠ []) (tree : Tree) :
    performAll writes tree = .ok (applyAll writes tree) := by
  induction writes generalizing tree with
  | nil => rfl
  | cons w writes ih =>
    obtain ⟨first, later⟩ := List.forall_mem_cons.1 rooted
    rw [performAll, perform_eq first]
    exact ih later _

/-- A write moves in front of others that are apart from it. -/
theorem applyAll_move {front : List Write} (back : List Write) (canonical : Value.Canonical tree)
    (sound : ∀ v ∈ front, v.Canonical) (apart : ∀ v ∈ front, Apart v.place w.place) :
    applyAll (front ++ w :: back) tree = applyAll (w :: (front ++ back)) tree := by
  induction front generalizing tree with
  | nil => rfl
  | cons v front ih =>
    obtain ⟨sound, soundLater⟩ := List.forall_mem_cons.1 sound
    obtain ⟨apart, apartLater⟩ := List.forall_mem_cons.1 apart
    calc applyAll (front ++ w :: back) (v.apply tree)
      _ = applyAll (front ++ back) (w.apply (v.apply tree)) :=
        ih (sound.apply canonical) soundLater apartLater
      _ = applyAll (front ++ back) (v.apply (w.apply tree)) := by rw [apply_comm apart canonical]

/-! ## Schedules -/

variable {Writer : Type} [DecidableEq Writer]

/-- Turns one after another: whose it is, and the write that is made. -/
abbrev Schedule (Writer : Type) := List (Writer × Write)

namespace Schedule

/-- The writes of one writer, in their order. -/
def own (i : Writer) (s : Schedule Writer) : List Write := (s.filter (·.1 = i)).map Prod.snd

/-- All writes, in the order of their turns. -/
def writes (s : Schedule Writer) : List Write := s.map Prod.snd

/-- A schedule in which every writer makes the writes of its row, in their order. -/
def Interleaves (rows : Writer → List Write) (s : Schedule Writer) : Prop := ∀ i, s.own i = rows i

variable {s s' : Schedule Writer}

theorem mem_own {i : Writer} {w : Write} : w ∈ own i s ↔ (i, w) ∈ s := by
  simp [own]

theorem own_append (i : Writer) (s s' : Schedule Writer) : own i (s ++ s') = own i s ++ own i s' := by
  simp [own]

/-- A writer's first turn stands behind turns of others only. -/
theorem exists_first {i : Writer} {w : Write} {ws : List Write} (h : own i s = w :: ws) :
    ∃ front back, s = front ++ (i, w) :: back ∧ ∀ x ∈ front, x.1 ≠ i := by
  obtain ⟨turn, turns, filtered, rfl, -⟩ := List.map_eq_cons_iff.1 h
  obtain ⟨front, back, rfl, others, own, -⟩ := List.filter_eq_cons_iff.1 filtered
  obtain rfl : turn.1 = i := by simpa using own
  exact ⟨front, back, rfl, fun x hx => by simpa using others x hx⟩

/-- Two schedules with the same rows of writes lead to the same tree, if turns of different writers are
apart. -/
theorem applyAll_eq_of_own (canonical : Value.Canonical tree) (sound : ∀ x ∈ s, x.2.Canonical)
    (apart : ∀ x ∈ s, ∀ y ∈ s, x.1 ≠ y.1 → Apart x.2.place y.2.place) (same : ∀ i, own i s' = own i s) :
    applyAll s'.writes tree = applyAll s.writes tree := by
  induction s generalizing s' tree with
  | nil =>
    have empty : s' = [] := by
      apply List.eq_nil_iff_forall_not_mem.2
      intro x hx
      have mine : x.2 ∈ own x.1 s' := mem_own.2 hx
      rw [same] at mine
      cases mine
    rw [empty]
  | cons turn s ih =>
    obtain ⟨i, w⟩ := turn
    have first : own i s' = w :: own i s := by rw [same]; simp [own]
    obtain ⟨front, back, rfl, others⟩ := exists_first first
    -- the turns in front are turns of `s` too, so each of them is apart from the write of `i`
    have old : ∀ x ∈ front, x ∈ (i, w) :: s := by
      intro x hx
      rw [← mem_own, ← same, mem_own]
      exact List.mem_append_left _ hx
    have moved : applyAll (writes (front ++ (i, w) :: back)) tree =
        applyAll (writes (front ++ back)) (w.apply tree) := by
      simp only [writes, List.map_append, List.map_cons]
      apply applyAll_move _ canonical
      · intro v hv
        obtain ⟨x, hx, rfl⟩ := List.mem_map.1 hv
        exact sound x (old x hx)
      · intro v hv
        obtain ⟨x, hx, rfl⟩ := List.mem_map.1 hv
        exact apart x (old x hx) (i, w) List.mem_cons_self (others x hx)
    have left : ∀ j, own j (front ++ back) = own j s := by
      intro j
      have before := same j
      rw [own_append] at before ⊢
      by_cases mine : i = j
      · subst mine
        have none : own i front = [] := by simpa [own] using others
        rw [none] at before ⊢
        simpa [own] using before
      · simpa [own, mine] using before
    obtain ⟨soundFirst, soundLater⟩ := List.forall_mem_cons.1 sound
    rw [moved]
    apply ih (soundFirst.apply canonical) soundLater _ left
    exact fun x hx y hy => apart x (List.mem_cons_of_mem _ hx) y (List.mem_cons_of_mem _ hy)

end Schedule

/-- **Writers whose places are apart.** Take any tree whose objects have one member a key, in ascending
order. Two writes at places apart succeed in either order and leave one tree. And however many writers
take turns, each at places apart from those of the others: every interleaving that keeps the order of
each writer's own row succeeds and ends in the same tree. -/
theorem writers_apart_agree {tree : Tree} (canonical : Value.Canonical tree) :
    (∀ w w' : Write, Apart w.place w'.place →
      ∃ after, (Memory.perform w tree).bind (Memory.perform w') = .ok after ∧
        (Memory.perform w' tree).bind (Memory.perform w) = .ok after) ∧
      ∀ (Writer : Type) [DecidableEq Writer] (rows : Writer → List Write),
        (∀ i, ∀ w ∈ rows i, w.place ≠ [] ∧ w.Canonical) →
        (∀ i j, i ≠ j → ∀ w ∈ rows i, ∀ w' ∈ rows j, Apart w.place w'.place) →
        ∃ after, ∀ schedule : Schedule Writer, schedule.Interleaves rows →
          Memory.performAll schedule.writes tree = .ok after := by
  constructor
  · intro w w' apart
    obtain ⟨rooted, rooted'⟩ := apart.ne_nil
    refine ⟨w'.apply (w.apply tree), ?_, ?_⟩
    · rw [Memory.perform_eq rooted]
      exact Memory.perform_eq rooted' _
    · rw [Memory.perform_eq rooted', ← apply_comm apart canonical]
      exact Memory.perform_eq rooted _
  · intro Writer _ rows fit apart
    by_cases possible : ∃ schedule : Schedule Writer, schedule.Interleaves rows
    · obtain ⟨s, interleaves⟩ := possible
      have turn : ∀ {schedule : Schedule Writer}, schedule.Interleaves rows →
          ∀ x ∈ schedule, x.2 ∈ rows x.1 := by
        intro schedule kept x hx
        rw [← kept x.1]
        exact Schedule.mem_own.2 hx
      refine ⟨applyAll s.writes tree, fun schedule kept => ?_⟩
      have rooted : ∀ w ∈ schedule.writes, w.place ≠ [] := by
        intro w hw
        obtain ⟨x, hx, rfl⟩ := List.mem_map.1 hw
        exact (fit x.1 x.2 (turn kept x hx)).1
      rw [Memory.performAll_eq rooted]
      apply congrArg
      apply Schedule.applyAll_eq_of_own canonical
      · exact fun x hx => (fit x.1 x.2 (turn interleaves x hx)).2
      · exact fun x hx y hy differ =>
          apart x.1 y.1 differ x.2 (turn interleaves x hx) y.2 (turn interleaves y hy)
      · exact fun i => (kept i).trans (interleaves i).symm
    · exact ⟨tree, fun schedule kept => absurd ⟨schedule, kept⟩ possible⟩

/-- A scalar stands on the way of two writers; one of them removes before it writes, the other merges and
saves, and they take turns in two ways. -/
theorem turns_around_a_scalar :
    let tree : Tree := .object [("users", .string "flat")]
    let clear : Write := .set "users/u1" .null
    let name : Write := .set "users//u1/name" (.string "ada")
    let link : Write := .update "/users/u2" [("github_token", .string "t"), ("name", .null)]
    let save : Write := .set "progress/u2" (.list [.null])
    Value.Canonical tree ∧ Apart clear.place link.place ∧
      (∃ after, (Memory.perform clear tree).bind (Memory.perform link) = .ok after ∧
        (Memory.perform link tree).bind (Memory.perform clear) = .ok after) ∧
      ∃ after, Memory.performAll [clear, name, link, save] tree = .ok after ∧
        Memory.performAll [link, clear, save, name] tree = .ok after := by
  intro tree clear name link save
  have canonical : Value.Canonical tree := by
    simp [tree, Value.Canonical, Value.CanonicalMembers]
  have apart : Apart clear.place link.place := by decide
  obtain ⟨pair, rows⟩ := writers_apart_agree canonical
  refine ⟨canonical, apart, pair clear link apart, ?_⟩
  let row : Bool → List Write := fun first => if first then [clear, name] else [link, save]
  have fit : ∀ i, ∀ w ∈ row i, w.place ≠ [] ∧ w.Canonical := by
    have members : Value.Canonical (.object [("github_token", .string "t"), ("name", .null)]) := by
      apply Value.canonical_object_iff.2
      constructor
      · have below : "github_token" < "name" := by decide
        exact List.pairwise_pair.2 below
      · intro m hm
        rcases List.mem_pair.1 hm with rfl | rfl <;> trivial
    have list : Value.Canonical (.list [.null]) := ⟨trivial, trivial⟩
    intro i w hw
    have rooted : ∀ w ∈ [clear, name, link, save], w.place ≠ [] := by decide
    cases i with
    | false =>
      rcases List.mem_pair.1 hw with rfl | rfl
      · exact ⟨rooted _ (by simp), members⟩
      · exact ⟨rooted _ (by simp), list⟩
    | true =>
      rcases List.mem_pair.1 hw with rfl | rfl
      · exact ⟨rooted _ (by simp), trivial⟩
      · exact ⟨rooted _ (by simp), trivial⟩
  have separate : ∀ i j, i ≠ j → ∀ w ∈ row i, ∀ w' ∈ row j, Apart w.place w'.place := by decide
  obtain ⟨after, agree⟩ := rows Bool row fit separate
  refine ⟨after, ?_, ?_⟩
  · exact agree [(true, clear), (true, name), (false, link), (false, save)] fun i => by cases i <;> decide
  · exact agree [(false, link), (true, clear), (false, save), (true, name)] fun i => by cases i <;> decide

end CodeGate.Store
