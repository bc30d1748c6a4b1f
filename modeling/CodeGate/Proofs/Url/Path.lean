import CodeGate.Proofs.Url.Percent
import CodeGate.Url.Parser
import Mathlib.Data.Bool.AllAny

/-!
# The path of an address

A settled segment is one that reading would leave alone: it holds no separator, nothing to encode, and no
dots that move. The path of an address that was read has settled segments only, and so has every path
to which segments were added; written out, such a path reads back as the same segments.
-/

namespace CodeGate.Url

open CodeGate.Text

/-! ## Bytes of a text -/

/-- A text is determined by its UTF-8 form. -/
theorem eq_of_utf8_eq {cs ds : List Char}
    (h : cs.flatMap String.utf8EncodeChar = ds.flatMap String.utf8EncodeChar) : cs = ds := by
  have bytes : (String.ofList cs).toByteArray = (String.ofList ds).toByteArray := by
    simp [List.utf8Encode, h]
  exact String.ofList_injective (String.toByteArray_inj.1 bytes)

/-! ## Dots -/

/-- A segment that is read as dots decodes to dots. -/
theorem percentDecode_of_plainDots {level : List Char} (h : ∀ d ∈ plainDots level, d = '.') :
    percentDecode level = (plainDots level).flatMap String.utf8EncodeChar := by
  fun_induction plainDots level with
  | case1 rest ih => rw [List.flatMap_cons, ← ih fun d hd => h d (List.mem_cons_of_mem _ hd)]; rfl
  | case2 rest ih => rw [List.flatMap_cons, ← ih fun d hd => h d (List.mem_cons_of_mem _ hd)]; rfl
  | case3 c rest _ _ ih =>
    have dot : c = '.' := h c List.mem_cons_self
    rw [List.flatMap_cons, ← ih fun d hd => h d (List.mem_cons_of_mem _ hd),
      percentDecode_cons (by rw [dot]; decide)]
  | case4 => rfl

/-- An encoded text moves in the path only if the text itself is one or two dots. -/
theorem move_percentEncode {cs : List Char} (one : cs ≠ ['.']) (two : cs ≠ ['.', '.']) :
    Move.of (percentEncode keptInSegment cs) = .put := by
  have decoded := @percentDecode_percentEncode keptInSegment (by decide) cs
  have differs : ∀ dots : List Char, (∀ d ∈ dots, d = '.') → cs ≠ dots →
      plainDots (percentEncode keptInSegment cs) ≠ dots := by
    intro dots all differ e
    have bytes := percentDecode_of_plainDots (e.symm ▸ all)
    rw [decoded, e] at bytes
    exact differ (eq_of_utf8_eq bytes)
  rw [Move.of, if_neg (differs _ (by simp) one), if_neg (differs _ (by simp) two)]

/-! ## Settled segments -/

/-- Characters that a path holds as they are, none of them a separator. -/
def PathChars (piece : List Char) : Prop := ∀ c ∈ piece, keptInPath c = true ∧ c ≠ '/' ∧ c ≠ '\\'

/-- A segment that reading leaves alone. -/
structure Settled (level : List Char) : Prop where
  stays : Move.of level = .put
  chars : PathChars level

theorem settled_nil : Settled [] := ⟨by decide, by simp [PathChars]⟩

/-- What percent-encoding writes needs no encoding in a path and is no separator. -/
theorem pathChars_percentMarks : PathChars percentMarks :=
  List.all_iff_forall_prop.1 (by decide)

theorem keptInSegment_pathChar {c : Char} (h : keptInSegment c = true) :
    keptInPath c = true ∧ c ≠ '/' ∧ c ≠ '\\' := by
  simp only [keptInSegment, keptInPath, keptExcept, Bool.and_eq_true, Bool.not_eq_true',
    List.contains_eq_mem, decide_eq_false_iff_not, List.mem_cons, List.not_mem_nil, or_false, not_or] at h ⊢
  grind

/-- A name other than dots is encoded as a settled segment. -/
theorem settled_percentEncode {cs : List Char} (one : cs ≠ ['.']) (two : cs ≠ ['.', '.']) :
    Settled (percentEncode keptInSegment cs) := by
  refine ⟨move_percentEncode one two, fun c hc => ?_⟩
  rcases mem_percentEncode hc with ⟨keeps, -⟩ | mark
  · exact keptInSegment_pathChar keeps
  · exact pathChars_percentMarks c mark

/-- A path of settled segments. -/
def SettledPath (path : List (List Char)) : Prop := ∀ level ∈ path, Settled level

theorem SettledPath.append {path levels : List (List Char)} (h : SettledPath path) (hl : SettledPath levels) :
    SettledPath (path ++ levels) :=
  fun l hm => (List.mem_append.1 hm).elim (h l) (hl l)

theorem SettledPath.concat {path : List (List Char)} {level : List Char} (h : SettledPath path)
    (hl : Settled level) : SettledPath (path ++ [level]) :=
  h.append fun _ hm => List.mem_singleton.1 hm ▸ hl

/-! ## Paths that were read -/

theorem SettledPath.goUp {path : List (List Char)} (h : SettledPath path) : SettledPath (goUp path) := by
  unfold Url.goUp
  split
  · exact h
  · exact fun level hm => h level (List.dropLast_subset _ hm)

theorem settledPath_place {done : List (List Char)} {piece : List Char} (h : SettledPath done)
    (hp : PathChars piece) : SettledPath (place done piece) := by
  unfold place
  split
  · next stays => exact h.concat ⟨stays, hp⟩
  · exact h.concat settled_nil
  · exact h.goUp.concat settled_nil

theorem settledPath_readPath {pieces done : List (List Char)} (h : SettledPath done)
    (hp : ∀ piece ∈ pieces, PathChars piece) : SettledPath (readPath done pieces) := by
  fun_induction readPath done pieces with
  | case1 => exact h
  | case2 done last => exact settledPath_place h (hp last (by simp))
  | case3 done piece more _ ih =>
    refine ih ?_ fun p hm => hp p (List.mem_cons_of_mem _ hm)
    split
    · next stays => exact h.concat ⟨stays, hp piece (by simp)⟩
    · exact h
    · exact h.goUp

/-- What stands between slashes is part of the text, and no slash. -/
theorem mem_of_mem_splitOn {cs piece : List Char} (h : piece ∈ cs.splitOn '/') {c : Char} (hc : c ∈ piece) :
    c ∈ cs ∧ c ≠ '/' := by
  induction cs generalizing piece with
  | nil => simp only [List.splitOn_nil, List.mem_singleton] at h; simp [h] at hc
  | cons d cs ih =>
    obtain ⟨first, more, pieces⟩ := List.exists_cons_of_ne_nil (List.splitOn_ne_nil '/' cs)
    have later : ∀ p ∈ first :: more, c ∈ p → c ∈ d :: cs ∧ c ≠ '/' := by
      intro p hp hcp
      obtain ⟨inText, notSlash⟩ := ih (pieces ▸ hp) hcp
      exact ⟨List.mem_cons_of_mem _ inText, notSlash⟩
    rw [List.splitOn_cons_eq_if_modifyHead, pieces] at h
    split at h
    · rcases List.mem_cons.1 h with rfl | h
      · cases hc
      · exact later piece h hc
    · next differ =>
      rcases List.mem_cons.1 h with rfl | h
      · rcases List.mem_cons.1 hc with rfl | hc
        · exact ⟨List.mem_cons_self, fun slash => differ (by simp [slash])⟩
        · exact later first List.mem_cons_self hc
      · exact later piece (List.mem_cons_of_mem _ h) hc

theorem pathChars_of_mem_pathPieces {cs piece : List Char} (h : piece ∈ pathPieces cs) :
    PathChars (percentEncode keptInPath piece) := by
  intro c hc
  rcases mem_percentEncode hc with ⟨keeps, inPiece⟩ | mark
  · obtain ⟨inText, notSlash⟩ := mem_of_mem_splitOn h inPiece
    refine ⟨keeps, notSlash, fun backslash => ?_⟩
    obtain ⟨d, -, hd⟩ := List.mem_map.1 inText
    split at hd
    · exact notSlash hd.symm
    · next differ => exact differ (hd.trans backslash)
  · exact pathChars_percentMarks c mark

/-- The path of an address that was read is settled. -/
theorem settledPath_path (cs : List Char) : SettledPath (path cs) := by
  unfold path
  refine settledPath_readPath (by simp [SettledPath]) fun piece hm => ?_
  obtain ⟨p, hp, rfl⟩ := List.mem_map.1 hm
  exact pathChars_of_mem_pathPieces hp

theorem readPath_ne_nil {pieces done : List (List Char)} (h : pieces ≠ []) : readPath done pieces ≠ [] := by
  fun_induction readPath done pieces with
  | case1 => exact absurd rfl h
  | case2 done last => unfold place; split <;> simp
  | case3 done piece more notLast ih => exact ih fun empty => notLast (by rw [empty])

/-- An address that was read has at least one segment. -/
theorem path_ne_nil (cs : List Char) : path cs ≠ [] := by
  unfold path
  exact readPath_ne_nil (by simp [pathPieces])

/-! ## Reading a path back -/

theorem readPath_settled {levels : List (List Char)} (h : SettledPath levels) (done : List (List Char)) :
    readPath done levels = done ++ levels := by
  fun_induction readPath done levels with
  | case1 => simp
  | case2 done last => simp [place, (h last (by simp)).stays]
  | case3 done piece more _ ih =>
    rw [(h piece (by simp)).stays] at ih ⊢
    rw [ih fun l hm => h l (List.mem_cons_of_mem _ hm)]
    simp

theorem splitOn_pathChars {level : List Char} {levels : List (List Char)} (h : SettledPath (level :: levels)) :
    (level ++ pathChars levels).splitOn '/' = level :: levels := by
  have whole : '/' ∉ level := fun slash => ((h level List.mem_cons_self).chars _ slash).2.1 rfl
  induction levels generalizing level with
  | nil => simpa [pathChars] using List.splitOn_eq_singleton whole
  | cons next levels ih =>
    have later : SettledPath (next :: levels) := fun l hm => h l (List.mem_cons_of_mem _ hm)
    have nextWhole : '/' ∉ next := fun slash => ((later next List.mem_cons_self).chars _ slash).2.1 rfl
    have cut : level ++ pathChars (next :: levels) = level ++ '/' :: (next ++ pathChars levels) := by
      simp [pathChars]
    rw [cut, List.splitOn_append_cons_self_of_not_mem whole, ih later nextWhole]

theorem path_slash (rest : List Char) :
    path ('/' :: rest) = readPath [] ((pathPieces rest).map (percentEncode keptInPath)) := rfl

theorem SettledPath.ne_backslash {levels : List (List Char)} (h : SettledPath levels) {c : Char}
    (hc : c ∈ pathChars levels) : c ≠ '\\' := by
  obtain ⟨level, hl, hc⟩ := List.mem_flatMap.1 hc
  rcases List.mem_cons.1 hc with rfl | hc
  · decide
  · exact ((h level hl).chars c hc).2.2

/-- A settled path that is written out reads back as the same segments. -/
theorem path_pathChars {levels : List (List Char)} (h : SettledPath levels) (filled : levels ≠ []) :
    path (pathChars levels) = levels := by
  obtain ⟨level, levels, rfl⟩ := List.exists_cons_of_ne_nil filled
  have start : pathChars (level :: levels) = '/' :: (level ++ pathChars levels) := by simp [pathChars]
  have plain : (level ++ pathChars levels).map (fun c => if c = '\\' then '/' else c) =
      level ++ pathChars levels := by
    refine (List.map_congr_left fun c hc => if_neg ?_).trans (List.map_id _)
    exact h.ne_backslash (by rw [start]; exact List.mem_cons_of_mem _ hc)
  have encoded : (level :: levels).map (percentEncode keptInPath) = level :: levels := by
    refine (List.map_congr_left fun l hm => ?_).trans (List.map_id _)
    exact percentEncode_of_kept fun c hc => ((h l hm).chars c hc).1
  rw [start, path_slash, pathPieces, plain, splitOn_pathChars h, encoded, readPath_settled h,
    List.nil_append]

end CodeGate.Url
