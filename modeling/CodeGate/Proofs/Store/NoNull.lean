import CodeGate.Proofs.Store.Interleaving

/-!
# Documents without null

A null at the top of a written value, or of a field, removes; the nulls that stand for missing nodes on the
way of a write are all written over. So a null gets into a document only inside another value, and after
writes whose values hold none there, what is stored at a path is what the path leads to.
-/

namespace CodeGate

open CodeGate.Json CodeGate.Store CodeGate.Store.Tree

/-! ## Values without null -/

namespace Json.Value

mutual

/-- The value is not null and holds no null. -/
def NullFree : Value → Prop
  | null => False
  | list items => NullFreeItems items
  | object ms => NullFreeMembers ms
  | _ => True

/-- Every value of the list is free of null. -/
def NullFreeItems : List Value → Prop
  | [] => True
  | v :: vs => v.NullFree ∧ NullFreeItems vs

/-- Every value of the members is free of null. -/
def NullFreeMembers : List (String × Value) → Prop
  | [] => True
  | (_, v) :: ms => v.NullFree ∧ NullFreeMembers ms

end

/-- A value that is free of null below its top: it is null itself, or holds none. -/
def NullAtMost (v : Value) : Prop := v = null ∨ v.NullFree

variable {key : String} {v w : Value} {ms : Members}

theorem nullFree_object_iff : (object ms).NullFree ↔ ∀ m ∈ ms, m.2.NullFree := by
  rw [NullFree]
  induction ms with
  | nil => simp [NullFreeMembers]
  | cons m ms ih => rw [NullFreeMembers, ih, List.forall_mem_cons]

theorem NullFree.ne_null (h : v.NullFree) : v ≠ null := by
  rintro rfl
  exact h

/-- The members of a value that holds no null below its top make an object free of null. -/
theorem NullAtMost.members (h : v.NullAtMost) : (object v.members).NullFree := by
  have none : (object []).NullFree := nullFree_object_iff.2 nofun
  rcases h with rfl | free
  · exact none
  · cases v with
    | object ms => exact free
    | _ => exact none

/-- What is found at a key holds no null below its top, also if a missing value is taken as null. -/
theorem NullFree.getD (h : (object ms).NullFree) (key : String) :
    ((Members.get? key ms).getD null).NullAtMost := by
  cases found : Members.get? key ms with
  | none => exact .inl rfl
  | some w => exact .inr (nullFree_object_iff.1 h _ (Members.mem_of_get? found))

theorem NullFree.insert (h : (object ms).NullFree) (key : String) (hv : v.NullFree) :
    (object (Members.insert key v ms)).NullFree := by
  rw [nullFree_object_iff] at h ⊢
  intro m hm
  rcases Members.mem_of_mem_insert hm with rfl | hm
  · exact hv
  · exact h m hm

theorem NullFree.erase (h : (object ms).NullFree) (key : String) :
    (object (Members.erase key ms)).NullFree := by
  rw [nullFree_object_iff] at h ⊢
  exact fun m hm => h m (List.mem_of_mem_filter hm)

end Json.Value

/-! ## Edits -/

namespace Store.Tree

variable {tree : Tree}

/-- Following keys through a tree without null leads to nodes without null. -/
theorem nullFree_of_follow (free : Value.NullFree tree) {keys : List String} {node : Value}
    (found : follow keys tree = some node) : node.NullFree := by
  apply of_follow (P := Value.NullFree) _ free found
  intro v child key free member
  have members : (Value.object v.members).NullFree := Value.NullAtMost.members (.inr free)
  exact Value.nullFree_object_iff.1 members _ (Members.mem_of_get? member)

namespace Edit

variable {e : Edit}

/-- An edit that leaves no null behind: what it makes of a node is free of null, also of a missing one, which
counts as null. -/
def Fills : Edit → Prop
  | change f => ∀ v : Value, v.NullAtMost → (f v).NullFree
  | remove => True

/-- The nodes that are made on the way hold nothing but the next one, and the last of them is filled. -/
theorem nullFree_alter {f : Value → Value} (fills : (change f).Fills) (keys : List String)
    (tree : Tree) (free : Value.NullAtMost tree) : Value.NullFree (alter f keys tree) := by
  induction keys generalizing tree with
  | nil => exact fills tree free
  | cons key keys ih =>
    have members := free.members
    exact members.insert key (ih _ (members.getD key))

theorem nullFree_remove (keys : List String) (free : Value.NullFree tree) :
    Value.NullFree (Tree.remove keys tree) := by
  apply remove_keeps _ _ keys free
  · exact fun key ms free => free.erase key
  · intro f key ms keeps free
    apply Value.nullFree_object_iff.2
    exact forall_mem_changeMember keeps (Value.nullFree_object_iff.1 free) key

theorem Fills.nullFree_make (fills : e.Fills) (keys : List String) (free : Value.NullFree tree) :
    Value.NullFree (e.make keys tree) := by
  cases e with
  | change f => exact nullFree_alter fills keys tree (.inr free)
  | remove => exact nullFree_remove keys free

end Edit

end Store.Tree

/-! ## Writes -/

namespace Store

variable {tree : Tree} {w : Write}

/-- A write without a null below the top of its value, or of its fields. -/
def Write.NullAtMost : Write → Prop
  | update _ fields => ∀ f ∈ fields, f.2.NullAtMost
  | set _ value => value.NullAtMost

theorem nullFree_mergeMembers {fields ms : Members} (hf : ∀ f ∈ fields, f.2.NullAtMost)
    (hm : (Value.object ms).NullFree) : (Value.object (mergeMembers fields ms)).NullFree := by
  apply mergeMembers_keeps (P := fun ms => (Value.object ms).NullFree) _ _ hm
  · exact fun key ms free => free.erase key
  · exact fun f mem filled ms free => free.insert f.1 ((hf f mem).resolve_left filled)

theorem Write.NullAtMost.fills (h : w.NullAtMost) : w.edit.Fills := by
  cases w with
  | update path fields => exact fun v hv => nullFree_mergeMembers h hv.members
  | set path value =>
    simp only [Write.edit]
    split
    · trivial
    · next filled => exact fun _ _ => Or.resolve_left h filled

end Store

/-! ## Runs of the store -/

namespace Store.Memory

variable {tree : Tree}

/-- A call of the store: a write, or a read at a path. -/
inductive Call where
  | write (w : Write)
  | get (path : String)
  deriving DecidableEq

namespace Call

/-- A call that ends in an error; a read never does. -/
def Refused (tree : Tree) : Call → Prop
  | write w => (interface.write w tree).answer ≠ .done
  | get _ => False

/-- The document after a call. -/
def after (tree : Tree) : Call → Tree
  | write w => (interface.write w tree).state
  | get _ => tree

end Call

/-- The document after calls one after another. -/
def afterAll (calls : List Call) (tree : Tree) : Tree := calls.foldl Call.after tree

/-- A write at the root is refused and leaves the document as it was. -/
theorem write_root {w : Write} (root : w.place = []) (tree : Tree) :
    (interface.write w tree).answer ≠ .done ∧ (interface.write w tree).state = tree := by
  obtain ⟨refusal, refused⟩ := perform_root root tree
  simp [interface, refused]

/-- Any other write is done. -/
theorem write_below {w : Write} (below : w.place ≠ []) (tree : Tree) :
    (interface.write w tree).answer = .done ∧ (interface.write w tree).state = w.apply tree := by
  simp [interface, perform_eq below]

/-- One call keeps the root an object, and keeps null out. -/
theorem Call.after_kept (call : Call) (rooted : tree.isObject = true) :
    (call.after tree).isObject = true ∧
      (Value.NullFree tree → (∀ w, call = .write w → w.place ≠ [] → w.NullAtMost) →
        Value.NullFree (call.after tree)) := by
  cases call with
  | get path => exact ⟨rooted, fun free _ => free⟩
  | write w =>
    by_cases root : w.place = []
    · rw [Call.after, (write_root root tree).2]
      exact ⟨rooted, fun free _ => free⟩
    · rw [Call.after, (write_below root tree).2]
      constructor
      · obtain ⟨key, keys, place⟩ := List.exists_cons_of_ne_nil root
        rw [Write.apply, place, Edit.isObject_make, rooted, Bool.true_or]
      · intro free plain
        exact (plain w rfl root).fills.nullFree_make _ free

/-- All calls, by induction on those still to come. -/
theorem afterAll_kept (calls : List Call) (rooted : tree.isObject = true) :
    (afterAll calls tree).isObject = true ∧
      (Value.NullFree tree → (∀ w, .write w ∈ calls → w.place ≠ [] → w.NullAtMost) →
        Value.NullFree (afterAll calls tree)) := by
  induction calls generalizing tree with
  | nil => exact ⟨rooted, fun free _ => free⟩
  | cons call calls ih =>
    obtain ⟨rooted, first⟩ := call.after_kept rooted
    obtain ⟨rooted, later⟩ := ih rooted
    refine ⟨rooted, fun free plain => later (first free ?_) fun w hw => plain w (List.mem_cons_of_mem _ hw)⟩
    rintro w rfl
    exact plain w List.mem_cons_self

/-- In a document without null what is stored at a path is what the path leads to. -/
theorem get?_eq_follow (free : Value.NullFree tree) (path : String) :
    get? path tree = follow (segments path) tree := by
  rw [get?, get?_eq]
  cases found : follow (segments path) tree with
  | none => rfl
  | some node => exact if_neg (nullFree_of_follow free found).ne_null

/-- **The document of a store over a whole run.** Whatever is written and read from the empty document on, the
root is an object; a call ends in an error exactly if it is a write at a path without a segment, and then
leaves the document as it was. If no value that was written holds a null below its top (what is refused does not
count), the document holds none anywhere, and nothing is stored at a path exactly if the path leads out of the document. -/
theorem document_over_run (calls : List Call) :
    let tree := afterAll calls .empty
    tree.isObject = true ∧
      (∀ call : Call, call.Refused tree ↔ ∃ w, call = .write w ∧ w.place = []) ∧
      (∀ call : Call, call.Refused tree → call.after tree = tree) ∧
      ((∀ w, .write w ∈ calls → w.place ≠ [] → w.NullAtMost) →
        Value.NullFree tree ∧ ∀ path, get? path tree = none ↔ follow (segments path) tree = none) := by
  intro tree
  have refused : ∀ call : Call, call.Refused tree ↔ ∃ w, call = .write w ∧ w.place = [] := by
    intro call
    constructor
    · cases call with
      | get path => exact False.elim
      | write w =>
        intro refused
        by_contra below
        exact refused (write_below (fun root => below ⟨w, rfl, root⟩) tree).1
    · rintro ⟨w, rfl, root⟩
      exact (write_root root tree).1
  have empty : Value.NullFree .empty := Value.nullFree_object_iff.2 nofun
  obtain ⟨rooted, kept⟩ := @afterAll_kept .empty calls rfl
  refine ⟨rooted, refused, ?_, fun plain => ⟨kept empty plain, fun path => ?_⟩⟩
  · intro call error
    obtain ⟨w, rfl, root⟩ := (refused call).1 error
    exact (write_root root tree).2
  · rw [get?_eq_follow (kept empty plain)]

/-- A run with a scalar on the way, a field that removes another, a write at the root and a removal. -/
theorem run_through_a_scalar :
    let calls : List Call := [.write (.set "users/u1" (.list [.bool true])), .get "users/u1/0",
      .write (.update "users//u1/" [("name", .string "ada"), ("old", .null)]), .write (.set "//" (.list [.null])),
      .write (.set "progress/u1/step" (.number (.integer 1))), .write (.set "progress/u1/step" .null)]
    let tree := afterAll calls .empty
    (∀ w, .write w ∈ calls → w.place ≠ [] → w.NullAtMost) ∧ Value.NullFree tree ∧
      get? "users/u1/name" tree = some (.string "ada") ∧ follow ["progress", "u1"] tree = some .empty ∧
      get? "progress/u1/step" tree = none := by
  intro calls tree
  have plain : ∀ w, .write w ∈ calls → w.place ≠ [] → w.NullAtMost := by
    intro w hw below
    simp only [calls, List.mem_cons, Call.write.injEq, reduceCtorEq, false_or, List.not_mem_nil, or_false] at hw
    rcases hw with rfl | rfl | rfl | rfl | rfl
    · exact .inr ⟨trivial, trivial⟩
    · exact List.forall_mem_cons.2 ⟨.inr trivial, List.forall_mem_singleton.2 (.inl rfl)⟩
    · exact absurd (by decide) below
    · exact .inr trivial
    · exact .inl rfl
  obtain ⟨-, -, -, kept⟩ := document_over_run calls
  obtain ⟨free, absent⟩ := kept plain
  exact ⟨plain, free, by decide +kernel, by decide +kernel, (absent _).2 (by decide +kernel)⟩

end Store.Memory

end CodeGate
