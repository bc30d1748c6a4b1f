import CodeGate.Proofs.Store.Tree
import CodeGate.Store.Path
import CodeGate.UserId

/-!
# The records of a user

An identifier that passes the check holds no slash and is not empty, so each path made from it leads
through exactly two keys, the second of which is the identifier. Records of different users, or of
different kinds, are apart.
-/

namespace CodeGate

/-! ## Cutting a path -/

namespace Store

/-- Characters without a slash are one piece. -/
theorem splitSlashes_of_not_mem {cs : List Char} (h : '/' ∉ cs) (piece : List Char) :
    splitSlashes piece cs = [piece.reverse ++ cs] := by
  induction cs generalizing piece with
  | nil => simp [splitSlashes]
  | cons c cs ih =>
    obtain ⟨here, later⟩ : '/' ≠ c ∧ '/' ∉ cs := by simpa using h
    rw [splitSlashes, if_neg (Ne.symm here), ih later]
    simp

/-- At a slash the pieces in front of it end. -/
theorem splitSlashes_slash (cs piece rest : List Char) :
    splitSlashes piece (cs ++ '/' :: rest) = splitSlashes piece cs ++ splitSlashes [] rest := by
  induction cs generalizing piece with
  | nil => simp [splitSlashes]
  | cons c cs ih =>
    by_cases slash : c = '/'
    · simp [splitSlashes, slash, ih]
    · simp [splitSlashes, slash, ih]

/-- The first slash ends the first piece. -/
theorem splitSlashes_append {cs : List Char} (h : '/' ∉ cs) (piece rest : List Char) :
    splitSlashes piece (cs ++ '/' :: rest) = (piece.reverse ++ cs) :: splitSlashes [] rest := by
  rw [splitSlashes_slash, splitSlashes_of_not_mem h]
  rfl

/-- A key behind a path is one more key on the way. -/
theorem segments_child (path : String) {key : String} (whole : '/' ∉ key.toList) (filled : key ≠ "") :
    segments (path ++ "/" ++ key) = segments path ++ [key] := by
  have cut : (path ++ "/" ++ key).toList = path.toList ++ '/' :: key.toList := by simp
  have keyFilled : key.toList ≠ [] := by simpa using filled
  rw [segments, segments, cut, splitSlashes_slash, splitSlashes_of_not_mem whole]
  simp [keyFilled]

/-- A path of one key below another describes these two keys. -/
theorem segments_two {path kind id : String} (cut : path.toList = kind.toList ++ '/' :: id.toList)
    (hk : '/' ∉ kind.toList) (ke : kind ≠ "") (hi : '/' ∉ id.toList) (ie : id ≠ "") :
    segments path = [kind, id] := by
  have pieces : splitSlashes [] path.toList = [kind.toList, id.toList] := by
    rw [cut, splitSlashes_append hk, splitSlashes_of_not_mem hi]
    rfl
  have kindFilled : kind.toList ≠ [] := by simpa using ke
  have idFilled : id.toList ≠ [] := by simpa using ie
  rw [segments, pieces]
  simp [kindFilled, idFilled]

end Store

/-! ## Accepted identifiers -/

namespace Text

theorem mem_dropWhile {p : Char → Bool} {c : Char} {cs : List Char} (hc : p c = false) (h : c ∈ cs) :
    c ∈ cs.dropWhile p := by
  induction cs with
  | nil => exact h
  | cons d cs ih =>
    rw [List.dropWhile_cons]
    split
    · next dropped =>
      rcases List.mem_cons.1 h with rfl | h
      · rw [hc] at dropped; cases dropped
      · exact ih h
    · exact h

/-- Trimming takes white space only. -/
theorem mem_toList_trim {c : Char} {s : String} (hc : isBlank c = false) (h : c ∈ s.toList) :
    c ∈ (trim s).toList := by
  have inner := List.mem_reverse.2 (mem_dropWhile hc h)
  simpa [trim, dropEndWhile] using mem_dropWhile hc inner

theorem trim_empty : trim "" = "" := rfl

end Text

namespace UserId

variable {text id : String}

theorem check_eq_ok_iff : check text = .ok id ↔ id = Text.trim text ∧ id ≠ "" ∧ id.toList.all allowed := by
  simp only [check]
  split
  · next blank => simp; intro e h; exact absurd (e.trans blank) h
  · next filled =>
    split
    · next all =>
      simp only [Except.ok.injEq]
      constructor
      · rintro rfl; exact ⟨rfl, filled, all⟩
      · rintro ⟨rfl, -, -⟩; rfl
    · next refused =>
      simp only [reduceCtorEq, false_iff]
      rintro ⟨rfl, -, all⟩
      exact refused all

/-- What an accepted text and the identifier in it have in common: they name a single key. -/
structure Key (id : String) : Prop where
  filled : id ≠ ""
  whole : '/' ∉ id.toList

theorem Key.of_check (h : check text = .ok id) : Key id := by
  obtain ⟨-, filled, all⟩ := check_eq_ok_iff.1 h
  refine ⟨filled, fun slash => ?_⟩
  have := List.all_eq_true.1 all '/' slash
  revert this; decide

/-- The text that was checked names a single key as well, with the white space around it. -/
theorem Key.of_accepted (h : check text = .ok id) : Key text := by
  obtain ⟨rfl, filled, -⟩ := check_eq_ok_iff.1 h
  refine ⟨fun empty => filled (by rw [empty, Text.trim_empty]), fun slash => ?_⟩
  exact (Key.of_check h).whole (Text.mem_toList_trim (by decide) slash)

theorem Key.segments_userRecord (h : Key id) : Store.segments (Store.userRecord id) = ["users", id] :=
  Store.segments_two (String.toList_append ..) (by decide) (by decide) h.whole h.filled

theorem Key.segments_progressRecord (h : Key id) :
    Store.segments (Store.progressRecord id) = ["progress", id] :=
  Store.segments_two (String.toList_append ..) (by decide) (by decide) h.whole h.filled

end UserId

/-! ## Records apart -/

namespace Store

theorem apart_two {kind kind' id id' : String} (h : kind ≠ kind' ∨ id ≠ id') :
    Tree.Apart [kind, id] [kind', id'] := by
  rw [Tree.apart_cons]
  intro same
  rw [Tree.apart_cons]
  intro sameId
  exact absurd sameId (h.resolve_left (not_not_intro same))

end Store

end CodeGate
