import CodeGate.Proofs.Store.Record
import CodeGate.Proofs.Store.RecordUrl
import CodeGate.Store.Memory
import Mathlib.Data.List.DropRight

/-!
# One record for an accepted identifier

What the check of an identifier refuses is enough for every place that takes a path apart: the path of a
record has two keys, both stores take it, and its address has two levels. So a kind of record and an
accepted identifier make one record, and no other kind or identifier makes the same one. Only behind a path
of two empty segments do the levels not stand where the path of the database ends: there one of its own
levels is lost.

Section 11 of the specification has an identifier name a single key.
-/

namespace CodeGate

open CodeGate.Json

/-! ## Trimming twice -/

namespace Text

theorem dropEndWhile_eq (p : Char → Bool) (cs : List Char) : dropEndWhile p cs = cs.rdropWhile p := rfl

/-- What is trimmed has no white space at its ends, so trimming it again changes nothing. -/
theorem trim_trim (s : String) : trim (trim s) = trim s := by
  have front : (dropEndWhile isBlank (s.toList.dropWhile isBlank)).dropWhile isBlank =
      dropEndWhile isBlank (s.toList.dropWhile isBlank) := by
    rw [List.dropWhile_eq_self_iff, dropEndWhile_eq]
    intro filled
    have cut := List.rdropWhile_prefix isBlank (l := s.toList.dropWhile isBlank)
    have first := List.dropWhile_get_zero_not isBlank s.toList (filled.trans_le cut.length_le)
    simpa only [List.get_eq_getElem, cut.getElem] using first
  have back := List.rdropWhile_idempotent isBlank (s.toList.dropWhile isBlank)
  simp only [trim, String.toList_ofList, front]
  rw [dropEndWhile_eq, dropEndWhile_eq, back]

end Text

/-! ## What an accepted identifier holds -/

namespace UserId

variable {text id : String} {c : Char}

theorem check_of_check (h : check text = .ok id) : check id = .ok id := by
  obtain ⟨rfl, filled, all⟩ := check_eq_ok_iff.1 h
  exact check_eq_ok_iff.2 ⟨(Text.trim_trim text).symm, filled, all⟩

theorem allowed_of_mem (h : check text = .ok id) (hc : c ∈ id.toList) : allowed c = true :=
  List.all_eq_true.1 (check_eq_ok_iff.1 h).2.2 c hc

/-- Nothing of an accepted identifier is dropped from an address: what is dropped are control characters. -/
theorem kept_of_check (h : check text = .ok id) : Url.Address.Kept id := by
  intro c hc
  have all := allowed_of_mem h hc
  cases dropped : Url.Address.isDropped c with
  | false => rfl
  | true =>
    simp only [Url.Address.isDropped, Bool.or_eq_true, decide_eq_true_eq] at dropped
    rcases dropped with (rfl | rfl) | rfl <;> revert all <;> decide

/-- An accepted identifier is no dots, since it holds none. -/
theorem ne_dots_of_check (h : check text = .ok id) : id ≠ "." ∧ id ≠ ".." := by
  have none : '.' ∉ id.toList := fun dot => absurd (allowed_of_mem h dot) (by decide)
  refine ⟨?_, ?_⟩ <;> rintro rfl <;> exact none (by decide)

end UserId

/-! ## Kinds of records -/

namespace Store

/-- The kinds of records that are kept for a user. -/
inductive RecordKind where
  | accounts
  | progress
  deriving DecidableEq, Repr

namespace RecordKind

/-- The key that all records of a kind lie below. -/
def key : RecordKind → String
  | accounts => "users"
  | progress => "progress"

/-- The path of a user's record. -/
def path : RecordKind → String → String
  | accounts => userRecord
  | progress => progressRecord

theorem key_injective : Function.Injective key := by
  intro kind other same
  cases kind <;> cases other <;> simp_all [key]

theorem segments_path {id : String} (h : UserId.Key id) (kind : RecordKind) :
    segments (kind.path id) = [kind.key, id] := by
  cases kind with
  | accounts => exact h.segments_userRecord
  | progress => exact h.segments_progressRecord

/-- Records with one row of keys are of one kind and of one user. -/
theorem eq_of_segments {kind other : RecordKind} {id id' : String} (h : UserId.Key id) (h' : UserId.Key id')
    (same : segments (kind.path id) = segments (other.path id')) : (kind, id) = (other, id') := by
  rw [segments_path h, segments_path h'] at same
  obtain ⟨keys, rest⟩ := List.cons.inj same
  obtain ⟨ids, -⟩ := List.cons.inj rest
  exact Prod.ext (key_injective keys) ids

end RecordKind

/-! ## The address of a record -/

namespace Realtime

open Url Url.Address Wire

variable {config : RemoteConfig} {db : Database} {text id url : String}

/-- The last level of a record's address: the identifier, percent-encoded, as the name of a document. -/
def documentLevel (id : String) : List Char := percentEncode keptInSegment id.toList ++ ".json".toList

theorem kept_document (h : Kept id) : Kept (id ++ ".json") := by
  have ending : Kept ".json" := by decide +kernel
  intro c hc
  rw [String.toList_append] at hc
  exact (List.mem_append.1 hc).elim (h c) (ending c)

theorem encoded_document (h : Kept id) : encoded (id ++ ".json") = documentLevel id := by
  have ending : percentEncode keptInSegment ".json".toList = ".json".toList :=
    percentEncode_of_kept (List.all_eq_true.1 (by decide))
  rw [encoded_of_kept (kept_document h), String.toList_append, percentEncode, List.flatMap_append]
  exact congrArg _ ending

theorem kept_key (kind : RecordKind) : Kept kind.key := by cases kind <;> decide +kernel

theorem encoded_key (kind : RecordKind) : encoded kind.key = kind.key.toList := by
  cases kind <;> decide +kernel

theorem addressable_record (h : UserId.check text = .ok id) (kind : RecordKind) :
    Addressable (kind.path id) := by
  obtain ⟨one, two⟩ := UserId.ne_dots_of_check h
  have keys := RecordKind.segments_path (UserId.Key.of_check h) kind
  constructor
  all_goals rw [keys]
  · exact List.cons_ne_nil _ _
  all_goals
    cases kind <;> simp [RecordKind.key, one.symm, two.symm]

theorem kept_record (h : UserId.check text = .ok id) (kind : RecordKind) :
    ∀ key ∈ segments (kind.path id), Kept key := by
  rw [RecordKind.segments_path (UserId.Key.of_check h) kind]
  simpa using ⟨kept_key kind, UserId.kept_of_check h⟩

/-- What the levels of a record stand behind: the path of the database without an empty segment at its
end, or nothing if the path is two empty segments. -/
def levelsBefore (path : List (List Char)) : List (List Char) := if path = [[], []] then [] else baseLevels path

theorem behindRoot_openEnd_eq {path : List (List Char)} (filled : path ≠ []) :
    behindRoot (openEnd path) = levelsBefore path := by
  unfold levelsBefore
  split
  · next roots => rw [roots]; rfl
  · next other => exact ((behindRoot_openEnd filled).resolve_right fun h => other h.1).2

/-- The address of a record: two levels, and all else from the database. -/
theorem addressFor_record (hc : connect config = .ok db) (h : UserId.check text = .ok id) (kind : RecordKind) :
    addressFor db (kind.path id) = .ok { db.address with
      path := levelsBefore db.address.path ++ [kind.key.toList, documentLevel id] } := by
  classical
  have addressable := addressable_record h kind
  have kept := (kept_levelNames_iff addressable.keyed).2 (kept_record h kind)
  have names : levelNames (segments (kind.path id)) = [kind.key, id ++ ".json"] := by
    rw [RecordKind.segments_path (UserId.Key.of_check h) kind]
    rfl
  have proper := addressable.proper
  rw [names] at kept proper
  rw [addressFor_eq, if_pos addressable, names, addSegments, foldl_addSegment_of_kept kept proper,
    behindRoot_openEnd_eq (settledPath_of_connect hc).2]
  simp only [List.map_cons, List.map_nil, encoded_key, encoded_document (UserId.kept_of_check h)]

theorem levelsBefore_eq_iff {path : List (List Char)} :
    levelsBefore path = baseLevels path ↔ path ≠ [[], []] := by
  unfold levelsBefore
  split
  · next roots => simp [roots, baseLevels]
  · next other => simp [other]

theorem stands_key (kind : RecordKind) : Stands kind.key.toList kind.key :=
  encoded_key kind ▸ stands_encoded_iff.2 (kept_key kind)

theorem stands_documentLevel (h : Kept id) : Stands (documentLevel id) (id ++ ".json") :=
  encoded_document h ▸ stands_encoded_iff.2 (kept_document h)

/-- Addresses of records tell them apart: different kinds or identifiers have different addresses. -/
theorem recordUrl_ne {text' id' : String} {kind other : RecordKind} (hc : connect config = .ok db)
    (h : UserId.check text = .ok id) (h' : UserId.check text' = .ok id') (apart : (kind, id) ≠ (other, id')) :
    recordUrl db (kind.path id) ≠ recordUrl db (other.path id') := by
  intro same
  have found := recordUrl_eq_ok_iff.2 ⟨_, addressFor_record hc h kind, rfl⟩
  have keys := segments_of_recordUrl_eq hc (kept_record h kind) (kept_record h' other) found (same ▸ found)
  exact apart (RecordKind.eq_of_segments (.of_check h) (.of_check h') keys)

/-- **One record for an accepted identifier.** The check accepts the identifier again; each kind's path has
the two keys of the kind and the identifier, and the in-memory store works at just these. Every database that
was connected to has an address for the path, which reads back as two levels, the kind and the identifier
percent-encoded, with the query and the fragment of the database; they stand behind the levels of the
database's own path, unless that is two empty segments. Two kinds or two identifiers make different keys and
different addresses. -/
theorem one_record_for_accepted (h : UserId.check text = .ok id) :
    UserId.check id = .ok id ∧
      (∀ kind : RecordKind, segments (kind.path id) = [kind.key, id]) ∧
      (∀ (kind : RecordKind) (fields : Members) (v : Value) (tree : Tree),
        Memory.update (kind.path id) fields tree = .ok (tree.update [kind.key, id] fields) ∧
          Memory.set (kind.path id) v tree = .ok (tree.set [kind.key, id] v) ∧
          Memory.get? (kind.path id) tree = tree.get? [kind.key, id]) ∧
      (∀ config db, connect config = .ok db → ∀ kind : RecordKind, ∃ made,
        recordUrl db (kind.path id) = .ok made.text ∧ Url.path (pathChars made.path) = made.path ∧
          made = { db.address with
            path := levelsBefore db.address.path ++ [kind.key.toList, documentLevel id] } ∧
          Stands kind.key.toList kind.key ∧ Stands (documentLevel id) (id ++ ".json") ∧
          (levelsBefore db.address.path = baseLevels db.address.path ↔ db.address.path ≠ [[], []])) ∧
      ∀ (kind other : RecordKind) (text' id' : String), UserId.check text' = .ok id' →
        (kind, id) ≠ (other, id') →
          segments (kind.path id) ≠ segments (other.path id') ∧
            ∀ config db, connect config = .ok db →
              recordUrl db (kind.path id) ≠ recordUrl db (other.path id') := by
  have keys := RecordKind.segments_path (.of_check h)
  refine ⟨UserId.check_of_check h, keys, ?_, ?_, ?_⟩
  · intro kind fields v tree
    simp [Memory.update, Memory.set, Memory.get?, keys kind]
  · intro config db connected kind
    have found := addressFor_record connected h kind
    exact ⟨_, recordUrl_eq_ok_iff.2 ⟨_, found, rfl⟩, path_pathChars_of_addressFor connected found, rfl,
      stands_key kind, stands_documentLevel (UserId.kept_of_check h), levelsBefore_eq_iff⟩
  · intro kind other text' id' accepted apart
    refine ⟨fun same => apart ?_, fun config db connected => recordUrl_ne connected h accepted apart⟩
    exact RecordKind.eq_of_segments (.of_check h) (.of_check accepted) same

/-- White space around an identifier does not count, and white space inside it is encoded. -/
theorem record_of_spaced_identifier :
    UserId.check " a b " = .ok "a b" ∧ segments "users/a b" = ["users", "a b"] ∧
      ∃ (db : Database) (made : Address), connect { databaseUrl := "http://[::1]/ns?x" } = .ok db ∧
        recordUrl db "users/a b" = .ok made.text ∧
        made.path = ["ns".toList, "users".toList, "a%20b.json".toList] ∧ made.query = some ['x'] ∧
        recordUrl db "users/a b" ≠ recordUrl db "progress/a b" := by
  have accepted : UserId.check " a b " = .ok "a b" := UserId.check_eq_ok_iff.2 (by decide)
  obtain ⟨again, keys, -, address, apart⟩ := one_record_for_accepted accepted
  obtain ⟨db, connected, run⟩ : ∃ db, connect { databaseUrl := "http://[::1]/ns?x" } = .ok db ∧
      decide (db.address.path = ["ns".toList] ∧ db.address.query = some ['x']) = true :=
    exists_connect (by decide +kernel)
  obtain ⟨base, query⟩ := of_decide_eq_true run
  obtain ⟨made, url, -, rfl, -⟩ := address _ db connected .accounts
  obtain ⟨-, urls⟩ := apart .accounts .progress "a b" "a b" again (by decide)
  refine ⟨accepted, keys .accounts, db, _, connected, url, ?_, query, urls _ db connected⟩
  dsimp only
  rw [base]
  decide +kernel

/-- Behind a path of two empty segments the first one is lost: the address of a record is not below that
path. -/
theorem empty_level_is_lost :
    UserId.check "u1" = .ok "u1" ∧
      ∃ (db : Database) (made : Address), connect { databaseUrl := "http://[::1]//?x" } = .ok db ∧
        addressFor db "users/u1" = .ok made ∧ made.text = "http://[::1]/users/u1.json?x" ∧
        baseLevels db.address.path = [[]] ∧ ¬Follows db ["users", "u1.json"] made := by
  have accepted : UserId.check "u1" = .ok "u1" := UserId.check_eq_ok_iff.2 (by decide)
  obtain ⟨db, connected, run⟩ : ∃ db, connect { databaseUrl := "http://[::1]//?x" } = .ok db ∧
      decide ((recordUrl db "users/u1").toOption = some "http://[::1]/users/u1.json?x" ∧
        db.address.path = [[], []]) = true := exists_connect (by decide +kernel)
  obtain ⟨url, roots⟩ := of_decide_eq_true run
  obtain ⟨made, found, text⟩ := recordUrl_eq_ok_iff.1 (eq_ok_of_toOption url)
  refine ⟨accepted, db, made, connected, found, text, by rw [roots]; rfl, fun follows => ?_⟩
  exact ((follows_iff (settledPath_of_connect connected).2 found).1 follows).2 roots

end Realtime

end Store

end CodeGate
