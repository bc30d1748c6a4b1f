import CodeGate.Proofs.Url.Path
import Mathlib.Data.List.Forall2

/-!
# Segments put behind a path

Names are put behind a path one level each, if nothing is dropped from them and the path they go behind
is not two empty segments, which would be taken for the root. A character that is dropped costs the
structure: a level then stands for another name, or the name turned into dots and took a level away.
-/

namespace CodeGate.Url.Address

open CodeGate.Text

/-- The segments of a path without an empty one at the end. -/
def baseLevels (path : List (List Char)) : List (List Char) :=
  if path.getLast? = some [] then path.dropLast else path

/-- A level that stands for a name: it is one level, and it decodes to the name. -/
structure Stands (level : List Char) (name : String) : Prop where
  whole : '/' ∉ level
  decodes : (percentDecode level).toByteArray = name.toUTF8

/-- A name from which nothing is dropped. -/
def Kept (name : String) : Prop := ∀ c ∈ name.toList, isDropped c = false

instance : DecidablePred Kept := fun name => List.decidableBAll _ name.toList

/-- A name that can be put behind a path: not empty, and no dots. -/
structure Proper (name : String) : Prop where
  filled : name ≠ ""
  one : name ≠ "."
  two : name ≠ ".."

/-- A name as it is put in place. -/
def encoded (name : String) : List Char := percentEncode keptInSegment (name.toList.filter (!isDropped ·))

/-- The segments that the next one goes behind: one empty segment is the root. -/
def behindRoot (path : List (List Char)) : List (List Char) := if path = [[]] then [] else path

theorem addSegment_eq (path : List (List Char)) (name : String) :
    addSegment path name = place (behindRoot path) (encoded name) := rfl

variable {path levels : List (List Char)} {name : String} {names : List String}

/-! ## Names from which nothing is dropped -/

theorem toList_ne {s t : String} (h : s ≠ t) : s.toList ≠ t.toList := fun e => h (String.toList_inj.1 e)

theorem encoded_of_kept (h : Kept name) : encoded name = percentEncode keptInSegment name.toList := by
  rw [encoded, List.filter_eq_self.2 fun c hc => by simp [h c hc]]

theorem settled_encoded (h : Kept name) (proper : Proper name) : Settled (encoded name) := by
  rw [encoded_of_kept h]
  exact settled_percentEncode (toList_ne proper.one) (toList_ne proper.two)

theorem pathChars_encoded (name : String) : PathChars (encoded name) := by
  intro c hc
  rcases mem_percentEncode hc with ⟨keeps, -⟩ | mark
  · exact keptInSegment_pathChar keeps
  · exact pathChars_percentMarks c mark

theorem toByteArray_percentDecode_encoded (name : String) :
    (percentDecode (encoded name)).toByteArray = (String.ofList (name.toList.filter (!isDropped ·))).toUTF8 := by
  rw [encoded, percentDecode_percentEncode (by decide)]
  simp [List.utf8Encode]

/-- The encoded form of a name stands for the name exactly if nothing is dropped from it. -/
theorem stands_encoded_iff : Stands (encoded name) name ↔ Kept name := by
  have decodes : (percentDecode (encoded name)).toByteArray = name.toUTF8 ↔ Kept name := by
    rw [toByteArray_percentDecode_encoded]
    simp only [String.toUTF8_eq_toByteArray, String.toByteArray_inj]
    rw [← String.toList_inj, String.toList_ofList, List.filter_eq_self]
    simp [Kept]
  have whole : '/' ∉ encoded name := fun slash => (pathChars_encoded name _ slash).2.1 rfl
  exact ⟨fun h => decodes.1 h.decodes, fun h => ⟨whole, decodes.2 h⟩⟩

/-- A level stands for one name only. -/
theorem rightUnique_stands : Relator.RightUnique Stands := by
  intro level name other h h'
  have bytes := h.decodes.symm.trans h'.decodes
  simp only [String.toUTF8_eq_toByteArray] at bytes
  exact String.toByteArray_inj.1 bytes

theorem not_stands_nil (h : name ≠ "") : ¬Stands [] name := by
  intro stands
  have bytes := stands.decodes
  simp only [String.toUTF8_eq_toByteArray, percentDecode] at bytes
  exact h (String.toByteArray_inj.1 (bytes.symm.trans (by simp)))

/-! ## One name put behind a path -/

theorem behindRoot_concat {level : List Char} (h : path ++ [level] ≠ [[]]) :
    behindRoot (path ++ [level]) = path ++ [level] := if_neg h

theorem length_behindRoot_le (path : List (List Char)) : (behindRoot path).length ≤ path.length := by
  unfold behindRoot
  split <;> simp

theorem behindRoot_of_length_eq (h : (behindRoot path).length = path.length) : behindRoot path = path := by
  unfold behindRoot at h ⊢
  split
  · next root => simp [root] at h
  · rfl

theorem addSegment_of_kept (h : Kept name) (proper : Proper name) (path : List (List Char)) :
    addSegment path name = behindRoot path ++ [encoded name] := by
  rw [addSegment_eq, place, (settled_encoded h proper).stays]

/-- A name comes to a level behind the path, or the path becomes no longer. -/
theorem addSegment_cases (path : List (List Char)) (name : String) :
    (∃ level, addSegment path name = behindRoot path ++ [level] ∧ (level = encoded name ∨ level = [])) ∨
      (addSegment path name).length ≤ (behindRoot path).length := by
  rw [addSegment_eq, place]
  split
  · exact .inl ⟨_, rfl, .inl rfl⟩
  · exact .inl ⟨_, rfl, .inr rfl⟩
  · unfold goUp
    split
    · exact .inl ⟨_, rfl, .inr rfl⟩
    · by_cases empty : behindRoot path = []
      · exact .inl ⟨[], by simp [empty], .inr rfl⟩
      · have shorter := List.length_pos_of_ne_nil empty
        refine .inr ?_
        simp only [List.length_append, List.length_dropLast, List.length_singleton]
        omega

/-! ## Names put behind a path one after another -/

theorem foldl_addSegment_of_kept (kept : ∀ n ∈ name :: names, Kept n) (proper : ∀ n ∈ name :: names, Proper n)
    (path : List (List Char)) :
    (name :: names).foldl addSegment path = behindRoot path ++ (name :: names).map encoded := by
  induction names generalizing path name with
  | nil => exact addSegment_of_kept (kept name (by simp)) (proper name (by simp)) path
  | cons next names ih =>
    have first := addSegment_of_kept (kept name (by simp)) (proper name (by simp)) path
    have filled : encoded name ≠ [] := by
      rw [encoded_of_kept (kept name (by simp))]
      exact percentEncode_ne_nil (by simpa using (proper name (by simp)).filled)
    have notRoot : behindRoot path ++ [encoded name] ≠ [[]] := fun e =>
      filled (by simpa using congrArg List.getLast? e)
    rw [List.foldl_cons, ih (fun n hn => kept n (List.mem_cons_of_mem _ hn))
      (fun n hn => proper n (List.mem_cons_of_mem _ hn)), first, behindRoot_concat notRoot]
    simp

/-- A path grows by at most a level for a name; if it grows by as much, each name came to a level. -/
theorem foldl_addSegment_grows (path : List (List Char)) (name : String) (names : List String) :
    ((name :: names).foldl addSegment path).length ≤ (behindRoot path).length + (name :: names).length ∧
      (((name :: names).foldl addSegment path).length = (behindRoot path).length + (name :: names).length →
        ∃ levels, (name :: names).foldl addSegment path = behindRoot path ++ levels ∧
          List.Forall₂ (fun level n => level = encoded n ∨ level = []) levels (name :: names)) := by
  induction names generalizing path name with
  | nil =>
    rcases addSegment_cases path name with ⟨level, put, form⟩ | short
    · exact ⟨by simp [put], fun _ => ⟨[level], put, .cons form .nil⟩⟩
    · simp only [List.foldl_cons, List.foldl_nil, List.length_cons, List.length_nil]
      exact ⟨by omega, fun _ => by omega⟩
  | cons next names ih =>
    obtain ⟨bound, grown⟩ := ih (addSegment path name) next
    have root := length_behindRoot_le (addSegment path name)
    rw [List.foldl_cons]
    rcases addSegment_cases path name with ⟨level, put, form⟩ | short
    · have length : (addSegment path name).length = (behindRoot path).length + 1 := by simp [put]
      refine ⟨by simp only [List.length_cons] at *; omega, fun most => ?_⟩
      have full : (behindRoot (addSegment path name)).length = (addSegment path name).length := by
        simp only [List.length_cons] at *; omega
      obtain ⟨levels, result, forms⟩ := grown (by simp only [List.length_cons] at *; omega)
      rw [behindRoot_of_length_eq full] at result
      exact ⟨level :: levels, by rw [result, put, List.append_assoc]; rfl, .cons form forms⟩
    · simp only [List.length_cons] at *
      exact ⟨by omega, fun _ => by omega⟩

theorem forall₂_stands_encoded (kept : ∀ n ∈ names, Kept n) :
    List.Forall₂ Stands (names.map encoded) names := by
  rw [List.forall₂_map_left_iff, List.forall₂_same]
  exact fun n hn => stands_encoded_iff.2 (kept n hn)

/-- Names that are put behind the same path with nothing dropped are told apart. -/
theorem foldl_addSegment_inj {other : String} {others : List String} (kept : ∀ n ∈ name :: names, Kept n)
    (proper : ∀ n ∈ name :: names, Proper n) (kept' : ∀ n ∈ other :: others, Kept n)
    (proper' : ∀ n ∈ other :: others, Proper n)
    (h : (name :: names).foldl addSegment path = (other :: others).foldl addSegment path) :
    name :: names = other :: others := by
  rw [foldl_addSegment_of_kept kept proper, foldl_addSegment_of_kept kept' proper'] at h
  have stand := forall₂_stands_encoded kept
  rw [List.append_cancel_left h] at stand
  exact List.right_unique_forall₂' rightUnique_stands stand (forall₂_stands_encoded kept')

/-! ## Paths with names behind them are settled -/

theorem settledPath_addSegment (h : SettledPath path) (name : String) :
    SettledPath (addSegment path name) ∧ addSegment path name ≠ [] := by
  rw [addSegment_eq]
  have before : SettledPath (behindRoot path) := by
    unfold behindRoot
    split
    · simp [SettledPath]
    · exact h
  refine ⟨settledPath_place before (pathChars_encoded name), ?_⟩
  unfold place
  split <;> simp

/-- Whatever is put behind a settled path, the path stays settled. -/
theorem settledPath_foldl_addSegment (h : SettledPath path) (filled : path ≠ []) (names : List String) :
    SettledPath (names.foldl addSegment path) ∧ names.foldl addSegment path ≠ [] := by
  induction names generalizing path with
  | nil => exact ⟨h, filled⟩
  | cons name names ih =>
    obtain ⟨settled, grown⟩ := settledPath_addSegment h name
    exact ih settled grown

theorem settledPath_openEnd (h : SettledPath path) (filled : path ≠ []) :
    SettledPath (openEnd path) ∧ openEnd path ≠ [] := by
  unfold openEnd
  split
  · next long =>
    refine ⟨fun level hl => h level (List.dropLast_subset _ hl), fun empty => ?_⟩
    have := congrArg List.length empty
    simp only [List.length_dropLast, List.length_nil] at this
    omega
  · exact ⟨h, filled⟩

/-! ## When the structure is kept -/

theorem baseLevels_concat (front : List (List Char)) (last : List Char) :
    baseLevels (front ++ [last]) = if last = [] then front else front ++ [last] := by
  simp [baseLevels]

theorem behindRoot_openEnd_concat (front : List (List Char)) (last : List Char) :
    behindRoot (openEnd (front ++ [last])) = if last = [] then behindRoot front else front ++ [last] := by
  by_cases ends : last = []
  · subst ends
    cases front with
    | nil => rfl
    | cons level front =>
      have grown : 1 < (level :: front ++ [[]]).length := by simp
      rw [openEnd, if_pos ⟨grown, List.getLast?_concat⟩, List.dropLast_concat, if_pos rfl]
  · have notRoot : front ++ [last] ≠ [[]] := fun e => ends (by simpa using congrArg List.getLast? e)
    simp [openEnd, ends, behindRoot, notRoot]

/-- What stands before the added segments is the path without an empty segment at its end; only two
empty segments are taken for the root. -/
theorem behindRoot_openEnd (filled : path ≠ []) :
    (path ≠ [[], []] ∧ behindRoot (openEnd path) = baseLevels path) ∨
      (path = [[], []] ∧ (behindRoot (openEnd path)).length < (baseLevels path).length) := by
  obtain ⟨front, last, rfl⟩ := (List.eq_nil_or_concat path).resolve_left filled
  rw [List.concat_eq_append, behindRoot_openEnd_concat, baseLevels_concat]
  by_cases ends : last = []
  · subst ends
    by_cases root : front = [[]]
    · exact .inr ⟨by simp [root], by simp [root, behindRoot]⟩
    · refine .inl ⟨fun e => root ?_, by simp [behindRoot, root]⟩
      simpa using congrArg List.dropLast e
  · refine .inl ⟨fun e => ends ?_, by simp [ends]⟩
    simpa using congrArg List.getLast? e

theorem kept_of_forms {names : List String} (filled : ∀ n ∈ names, n ≠ "")
    (forms : List.Forall₂ (fun level n => level = encoded n ∨ level = []) levels names)
    (stand : List.Forall₂ Stands levels names) : ∀ n ∈ names, Kept n := by
  induction forms with
  | nil => simp
  | @cons level name levels names form _ ih =>
    obtain ⟨stands, rest⟩ := List.forall₂_cons.1 stand
    intro n hn
    rcases List.mem_cons.1 hn with rfl | hn
    · rcases form with rfl | rfl
      · exact stands_encoded_iff.1 stands
      · exact absurd stands (not_stands_nil (filled n List.mem_cons_self))
    · exact ih (fun n hn => filled n (List.mem_cons_of_mem _ hn)) rest n hn

/-- Adding names keeps the structure of the path exactly if nothing is dropped from the names and the
path is not two empty segments. -/
theorem foldl_addSegment_keeps_iff (filled : path ≠ []) (proper : ∀ n ∈ name :: names, Proper n) :
    (∃ levels, (name :: names).foldl addSegment (openEnd path) = baseLevels path ++ levels ∧
        List.Forall₂ Stands levels (name :: names)) ↔
      (∀ n ∈ name :: names, Kept n) ∧ path ≠ [[], []] := by
  constructor
  · rintro ⟨levels, result, stand⟩
    obtain ⟨bound, grown⟩ := foldl_addSegment_grows (openEnd path) name names
    have lengths : levels.length = (name :: names).length := stand.length_eq
    rw [result, List.length_append, lengths] at bound grown
    rcases behindRoot_openEnd filled with ⟨notRoots, same⟩ | ⟨-, less⟩
    · obtain ⟨levels', result', forms⟩ := grown (by rw [same])
      rw [same] at result'
      obtain rfl := List.append_cancel_left result'
      exact ⟨kept_of_forms (fun n hn => (proper n hn).filled) forms stand, notRoots⟩
    · omega
  · rintro ⟨kept, notRoots⟩
    have same := (behindRoot_openEnd filled).resolve_right fun h => notRoots h.1
    refine ⟨(name :: names).map encoded, ?_, forall₂_stands_encoded kept⟩
    rw [foldl_addSegment_of_kept kept proper, same.2]

end CodeGate.Url.Address
