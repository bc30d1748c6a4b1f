import CodeGate.Proofs.Gate.Sanitize
import CodeGate.Proofs.Json.Documents
import CodeGate.Proofs.Operations.Calls

/-!
# Progress is read as it was given

The gate writes entities into a text before it is read as JSON. That is harmless: the sanitized text spells
the same tree, with the same literals, numbers, nesting and order, and only the brackets that stand as
themselves in its strings and keys are entities in the value.

Section 4.2 of the specification has the sanitized data parsed.
-/

namespace CodeGate

open CodeGate.Json CodeGate.Store CodeGate.Text

/-- The gate puts brackets down harmlessly. -/
theorem Gate.quiet_entity : Quiet Gate.entity where
  kept h h' := Gate.entity_of_ne h h'
  bracket := by
    have ordinary : ∀ y ∈ ['&', 'l', 'g', 't', ';'], Ordinary y := by
      intro y hy
      have facts : ∀ y ∈ ['&', 'l', 'g', 't', ';'], y ≠ '"' ∧ y ≠ '\\' ∧ 0x20 ≤ y.toNat :=
        List.all_iff_forall_prop.1 (by decide)
      obtain ⟨noQuote, noEscape, noControl⟩ := facts y hy
      exact ⟨noQuote, noEscape, noControl⟩
    rintro c (rfl | rfl)
    · exact ⟨'&', ['l', 't', ';'], rfl, by decide, fun y hy => ordinary y (by grind)⟩
    · exact ⟨'&', ['g', 't', ';'], rfl, by decide, fun y hy => ordinary y (by grind)⟩

namespace Json

variable {data : String} {v : Value}

/-- A sanitized text is read as the tree that was spelled before it was sanitized. -/
theorem read_sanitize_eq_ok_iff :
    read (Gate.sanitize data) = .ok v ↔ ∃ t, Document data.toList t ∧ v = t.value Gate.entity := by
  have same : Glyph.ofString (Gate.sanitize data) = spread Gate.entity data.toList := by
    rw [Glyph.ofString, Gate.toList_sanitize, spread]
  rw [read_eq_ok_iff_readGlyphs, same, Gate.quiet_entity.readGlyphs_spread]

theorem exists_read_iff : (∃ v, read data = .ok v) ↔ ∃ t, Document data.toList t := by
  simp only [read_eq_ok_iff]
  exact ⟨fun ⟨_, t, h, _⟩ => ⟨t, h⟩, fun ⟨t, h⟩ => ⟨_, t, h, rfl⟩⟩

theorem exists_read_sanitize_iff :
    (∃ v, read (Gate.sanitize data) = .ok v) ↔ ∃ t, Document data.toList t := by
  simp only [read_sanitize_eq_ok_iff]
  exact ⟨fun ⟨_, t, h, _⟩ => ⟨t, h⟩, fun ⟨t, h⟩ => ⟨_, t, h, rfl⟩⟩

end Json

namespace Operations

variable {user id data : String} {tree : Tree}

/-- Over the in-memory store and for an accepted identifier, saving succeeds exactly for data that spell a
tree. -/
theorem save_ok_iff (accepted : UserId.check user = .ok id) :
    (save Memory.interface (some user) data tree).ending = .ok progressSaved ↔ ∃ t, Document data.toList t := by
  have required : UserId.require (some user) = .ok id := require_eq_ok_iff.2 ⟨user, rfl, accepted⟩
  rw [← exists_read_sanitize_iff]
  cases hr : read (Gate.sanitize data) with
  | error reason => simp [save_of_error (planSave_of_malformed required hr)]
  | ok v => simp [(save_memory tree required hr).1]

theorem save_state (accepted : UserId.check user = .ok id) {t : Written} (h : Document data.toList t) :
    (save Memory.interface (some user) data tree).state =
      Tree.set ["progress", id] (t.value Gate.entity) tree := by
  have required : UserId.require (some user) = .ok id := require_eq_ok_iff.2 ⟨user, rfl, accepted⟩
  exact (save_memory tree required (read_sanitize_eq_ok_iff.2 ⟨t, h, rfl⟩)).2

/-- What is saved is found again; null is found as nothing. -/
theorem get?_save (accepted : UserId.check user = .ok id) {t : Written} (h : Document data.toList t) :
    Memory.get? (progressRecord id) (save Memory.interface (some user) data tree).state =
      Tree.reading (t.value Gate.entity) := by
  rw [save_state accepted h, Memory.get?, (UserId.Key.of_check accepted).segments_progressRecord]
  exact Tree.get?_set_self (List.cons_ne_nil _ _) _ _

/-- **Sanitizing is harmless to JSON.** The sanitized text is accepted exactly if the text itself is, and
then both spell one tree: the text is worth the tree as it stands, and what is saved is the tree with the
brackets that stand as themselves in strings and keys written as entities. So with an accepted identifier
a save succeeds exactly for data that are JSON, and this value is found in its place, or nothing for null. -/
theorem saved_as_spelled (data : String) :
    ((∃ w, read (Gate.sanitize data) = .ok w) ↔ ∃ v, read data = .ok v) ∧
      (∀ v, read data = .ok v ↔ ∃ t, Document data.toList t ∧ v = t.value fun c => [c]) ∧
      (∀ w, read (Gate.sanitize data) = .ok w ↔ ∃ t, Document data.toList t ∧ w = t.value Gate.entity) ∧
      ∀ user id tree, UserId.check user = .ok id →
        ((save Memory.interface (some user) data tree).ending = .ok progressSaved ↔ ∃ v, read data = .ok v) ∧
          ∀ t, Document data.toList t →
            (save Memory.interface (some user) data tree).state =
              Tree.set ["progress", id] (t.value Gate.entity) tree ∧
            Memory.get? ("progress/" ++ id) (save Memory.interface (some user) data tree).state =
              if t.value Gate.entity = .null then none else some (t.value Gate.entity) := by
  refine ⟨exists_read_sanitize_iff.trans exists_read_iff.symm, fun v => read_eq_ok_iff,
    fun w => read_sanitize_eq_ok_iff, fun user id tree accepted => ⟨?_, fun t h => ⟨save_state accepted h, ?_⟩⟩⟩
  · exact (save_ok_iff accepted).trans exists_read_iff.symm
  · exact get?_save accepted h

/-- A tag in a string is saved with its brackets as entities. -/
theorem tag_saved_as_entities :
    UserId.check "u1" = .ok "u1" ∧
      (save Memory.interface (some "u1") "\"<b>\"" .empty).ending = .ok progressSaved ∧
      (save Memory.interface (some "u1") "\"<b>\"" .empty).state =
        Tree.set ["progress", "u1"] (.string "&lt;b&gt;") .empty ∧
      Memory.get? ("progress/" ++ "u1") (save Memory.interface (some "u1") "\"<b>\"" .empty).state =
        some (.string "&lt;b&gt;") := by
  have accepted : UserId.check "u1" = .ok "u1" := UserId.check_eq_ok_iff.2 (by decide)
  have marks : StringSpelled ['<', 'b', '>'] [.plain '<', .plain 'b', .plain '>'] :=
    .plain ⟨by decide, by decide, by decide⟩ <| .plain ⟨by decide, by decide, by decide⟩ <|
      .plain ⟨by decide, by decide, by decide⟩ .nil
  have document : Document "\"<b>\"".toList (.string [.plain '<', .plain 'b', .plain '>']) :=
    .mk (b := []) nofun (.scalar (.string marks)) nofun
  obtain ⟨-, read, -, saved⟩ := saved_as_spelled "\"<b>\""
  obtain ⟨ending, left⟩ := saved "u1" "u1" .empty accepted
  obtain ⟨state, found⟩ := left _ document
  exact ⟨accepted, ending.2 ⟨_, (read _).2 ⟨_, document, rfl⟩⟩, state, found⟩

end Operations

end CodeGate
