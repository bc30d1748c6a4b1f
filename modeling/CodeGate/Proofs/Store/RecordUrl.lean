import CodeGate.Proofs.Url.Segments
import CodeGate.Store.Realtime

/-!
# The address of a record

A database that was connected to gives an address for every path with a key, unless one of the keys is
dots. The address keeps the structure of the path, one level for a key, exactly if no key holds a character
that is dropped from an address and the path of the database is not two empty segments.

Section 11 of the specification has each segment encoded and segments of dots refused.
-/

namespace CodeGate

/-! ## Addresses that were read -/

namespace Url

/-- The path of an address that was read comes from a text. -/
theorem path_of_withHost {scheme : String} {cs : List Char} {address : Address}
    (h : withHost scheme cs = .ok address) : ∃ rest, address.path = path rest := by
  simp only [withHost, bind, Except.bind, pure, Except.pure, throw, throwThe, MonadExceptOf.throw] at h
  repeat' split at h
  all_goals cases h
  exact ⟨_, rfl⟩

theorem path_of_read {text : String} {address : Address} (h : read text = .ok (.web address)) :
    ∃ rest, address.path = path rest := by
  unfold read at h
  split at h
  · cases h
  · next scheme rest _ =>
    split at h
    · cases found : withHost scheme (rest.dropWhile fun c => c = '/' || c = '\\') with
      | error fault => rw [found] at h; cases h
      | ok read =>
        obtain ⟨rest', e⟩ := path_of_withHost found
        rw [found] at h
        simp only [bind, Except.bind, pure, Except.pure] at h
        split at h
        · cases h; exact ⟨rest', e⟩
        · cases h
    · cases found : checkFile rest <;> rw [found] at h <;> cases h
    · cases found : checkOpaque rest <;> rw [found] at h <;> cases h

end Url

namespace Store

/-! ## Keys -/

theorem ne_empty_of_mem_segments {path key : String} (h : key ∈ segments path) : key ≠ "" := by
  obtain ⟨piece, hp, rfl⟩ := List.mem_map.1 h
  have filled : piece ≠ [] := by simpa using (List.mem_filter.1 hp).2
  intro empty
  exact filled (by simpa using congrArg String.toList empty)

namespace Realtime

open Url Url.Address Wire

variable {config : RemoteConfig} {db : Database} {path other url : String} {fault : Fault} {made : Address}
  {keys keys' : List String}

theorem read_of_connect (h : connect config = .ok db) : Url.read db.baseUrl = .ok (.web db.address) := by
  unfold connect at h
  dsimp only at h
  split at h
  · cases h
  · split at h
    · cases h
    · cases h
    · next found =>
      rw [← Except.ok.inj h]
      exact found

theorem settledPath_of_connect (h : connect config = .ok db) :
    SettledPath db.address.path ∧ db.address.path ≠ [] := by
  obtain ⟨rest, e⟩ := path_of_read (read_of_connect h)
  rw [e]
  exact ⟨settledPath_path rest, path_ne_nil rest⟩

/-! ## The keys as they are written -/

/-- The keys as they are written in an address: the last one names a document. -/
def levelNames (keys : List String) : List String := keys.dropLast ++ [keys.getLast?.getD "" ++ ".json"]

theorem levelNames_concat (front : List String) (last : String) :
    levelNames (front ++ [last]) = front ++ [last ++ ".json"] := by
  simp [levelNames]

theorem levelNames_inj (h : keys ≠ []) (h' : keys' ≠ []) (e : levelNames keys = levelNames keys') :
    keys = keys' := by
  obtain ⟨front, last, rfl⟩ := (List.eq_nil_or_concat keys).resolve_left h
  obtain ⟨front', last', rfl⟩ := (List.eq_nil_or_concat keys').resolve_left h'
  simp only [List.concat_eq_append, levelNames_concat] at e ⊢
  obtain ⟨rfl, document⟩ := List.append_inj' e rfl
  have same : last.toList = last'.toList := by
    have := congrArg String.toList (List.singleton_inj.1 document)
    simpa using this
  rw [String.toList_inj.1 same]

theorem kept_levelNames_iff (h : keys ≠ []) :
    (∀ name ∈ levelNames keys, Kept name) ↔ ∀ key ∈ keys, Kept key := by
  obtain ⟨front, last, rfl⟩ := (List.eq_nil_or_concat keys).resolve_left h
  have document : Kept (last ++ ".json") ↔ Kept last := by
    have ending : Kept ".json" := by decide
    simp only [Kept, String.toList_append, List.mem_append]
    exact ⟨fun all c hc => all c (.inl hc), fun all c hc => hc.elim (all c) (ending c)⟩
  simp only [List.concat_eq_append, levelNames_concat, List.forall_mem_append, List.forall_mem_singleton,
    document]

/-! ## Paths with an address -/

/-- A path that has an address: there is a key, and none is dots. -/
structure Addressable (path : String) : Prop where
  keyed : segments path ≠ []
  one : "." ∉ segments path
  two : ".." ∉ segments path

theorem not_addressable_iff :
    ¬Addressable path ↔ segments path = [] ∨ "." ∈ segments path ∨ ".." ∈ segments path := by
  constructor
  · intro h
    by_contra none
    obtain ⟨keyed, none⟩ := not_or.1 none
    obtain ⟨one, two⟩ := not_or.1 none
    exact h ⟨keyed, one, two⟩
  · rintro (empty | one | two) h
    · exact h.keyed empty
    · exact h.one one
    · exact h.two two

theorem addressFor_eq (db : Database) (path : String) [Decidable (Addressable path)] :
    addressFor db path = if Addressable path
      then .ok (db.address.addSegments (levelNames (segments path))) else .error (.invalidPath path) := by
  have refused : (segments path = [] ∨ (segments path).any (fun key => key = "." || key = "..")) ↔
      ¬Addressable path := by
    rw [not_addressable_iff]
    refine or_congr_right ?_
    simp only [List.any_eq_true, Bool.or_eq_true, decide_eq_true_eq]
    constructor
    · rintro ⟨key, hk, rfl | rfl⟩
      · exact .inl hk
      · exact .inr hk
    · rintro (one | two)
      · exact ⟨_, one, .inl rfl⟩
      · exact ⟨_, two, .inr rfl⟩
  simp only [addressFor, refused, ite_not]
  rfl

theorem Addressable.proper (h : Addressable path) : ∀ name ∈ levelNames (segments path), Proper name := by
  obtain ⟨front, last, e⟩ := (List.eq_nil_or_concat (segments path)).resolve_left h.keyed
  rw [List.concat_eq_append] at e
  rw [e, levelNames_concat]
  intro name hn
  rcases List.mem_append.1 hn with hn | hn
  · have key : name ∈ segments path := by rw [e]; exact List.mem_append_left _ hn
    exact ⟨ne_empty_of_mem_segments key, fun one => h.one (one ▸ key), fun two => h.two (two ▸ key)⟩
  · -- a name that ends in five more characters is longer than dots
    have long : 5 ≤ name.toList.length := by
      rw [List.mem_singleton.1 hn, String.toList_append, List.length_append]
      exact Nat.le_add_left _ _
    refine ⟨?_, ?_, ?_⟩ <;> rintro rfl <;> exact absurd long (by decide)

theorem levelNames_ne_nil (keys : List String) : levelNames keys ≠ [] := by
  simp [levelNames]

/-- A path that is addressable has an address, and there is no other error than for the path. -/
theorem recordUrl_eq_error_iff :
    recordUrl db path = .error fault ↔
      (segments path = [] ∨ "." ∈ segments path ∨ ".." ∈ segments path) ∧ fault = .invalidPath path := by
  classical
  rw [← not_addressable_iff, recordUrl, addressFor_eq]
  split
  · next addressable => simp [addressable, Except.map]
  · next refused => simp [refused, Except.map, eq_comm]

/-! ## The structure of an address -/

/-- An address that has one level for each of the names behind the path of the database, and all else
from the database. -/
def Follows (db : Database) (names : List String) (made : Address) : Prop :=
  ∃ levels, made = { db.address with path := baseLevels db.address.path ++ levels } ∧
    List.Forall₂ Stands levels names

theorem addressable_of_addressFor (h : addressFor db path = .ok made) :
    Addressable path ∧ made = db.address.addSegments (levelNames (segments path)) := by
  classical
  rw [addressFor_eq] at h
  split at h
  · next addressable => exact ⟨addressable, (Except.ok.inj h).symm⟩
  · cases h

theorem follows_iff (filled : db.address.path ≠ []) (h : addressFor db path = .ok made) :
    Follows db (levelNames (segments path)) made ↔
      (∀ key ∈ segments path, Kept key) ∧ db.address.path ≠ [[], []] := by
  obtain ⟨addressable, rfl⟩ := addressable_of_addressFor h
  obtain ⟨name, names, e⟩ := List.exists_cons_of_ne_nil (levelNames_ne_nil (segments path))
  rw [← kept_levelNames_iff addressable.keyed, e,
    ← foldl_addSegment_keeps_iff filled (e ▸ addressable.proper)]
  simp [Follows, addSegments]

/-- What an address spells out as its path reads back as the segments that were put there. -/
theorem path_pathChars_of_addressFor (hc : connect config = .ok db) (h : addressFor db path = .ok made) :
    Url.path (pathChars made.path) = made.path := by
  obtain ⟨-, rfl⟩ := addressable_of_addressFor h
  obtain ⟨settled, filled⟩ := settledPath_of_connect hc
  obtain ⟨settled, filled⟩ := settledPath_openEnd settled filled
  obtain ⟨settled, filled⟩ := settledPath_foldl_addSegment settled filled (levelNames (segments path))
  exact path_pathChars settled filled

/-- Addresses that differ in their path at most are told apart by it. -/
theorem pathChars_of_text_eq {u : Address} {levels levels' : List (List Char)}
    (h : ({ u with path := levels } : Address).text = ({ u with path := levels' } : Address).text) :
    pathChars levels = pathChars levels' := by
  have chars := String.ofList_injective h
  exact List.append_cancel_left (List.append_cancel_right (List.append_cancel_right chars))

theorem recordUrl_eq_ok_iff :
    recordUrl db path = .ok url ↔ ∃ made, addressFor db path = .ok made ∧ made.text = url := by
  unfold recordUrl
  cases addressFor db path with
  | error fault => simp [Except.map]
  | ok made => simp [Except.map]

/-- Keys of which nothing is dropped can be told from the address. -/
theorem segments_of_recordUrl_eq (hc : connect config = .ok db) (kept : ∀ key ∈ segments path, Kept key)
    (kept' : ∀ key ∈ segments other, Kept key) (h : recordUrl db path = .ok url)
    (h' : recordUrl db other = .ok url) : segments path = segments other := by
  obtain ⟨made, found, text⟩ := recordUrl_eq_ok_iff.1 h
  obtain ⟨made', found', text'⟩ := recordUrl_eq_ok_iff.1 h'
  have back := path_pathChars_of_addressFor hc found
  have back' := path_pathChars_of_addressFor hc found'
  obtain ⟨addressable, rfl⟩ := addressable_of_addressFor found
  obtain ⟨addressable', rfl⟩ := addressable_of_addressFor found'
  have same : pathChars (db.address.addSegments (levelNames (segments path))).path =
      pathChars (db.address.addSegments (levelNames (segments other))).path :=
    pathChars_of_text_eq (text.trans text'.symm)
  have paths := back.symm.trans ((congrArg Url.path same).trans back')
  have proper := addressable.proper
  have proper' := addressable'.proper
  rw [← kept_levelNames_iff addressable.keyed] at kept
  rw [← kept_levelNames_iff addressable'.keyed] at kept'
  refine levelNames_inj addressable.keyed addressable'.keyed ?_
  obtain ⟨name, names, e⟩ := List.exists_cons_of_ne_nil (levelNames_ne_nil (segments path))
  obtain ⟨name', names', e'⟩ := List.exists_cons_of_ne_nil (levelNames_ne_nil (segments other))
  simp only [addSegments] at paths
  rw [e] at kept proper paths ⊢
  rw [e'] at kept' proper' paths ⊢
  exact foldl_addSegment_inj kept proper kept' proper' paths

/-- What an address is, for every database that was connected to and every path. The text of the database
reads as the address again; a path is refused if it has no key or one of dots, and for nothing else; the
address has one level for each key, behind the path of the database, exactly if nothing is dropped
from a key and that path is not two empty segments; and it tells such keys apart. -/
theorem recordUrl_structure (h : connect config = .ok db) :
    Url.read db.baseUrl = .ok (.web db.address) ∧
      (∀ path fault, recordUrl db path = .error fault ↔
        (segments path = [] ∨ "." ∈ segments path ∨ ".." ∈ segments path) ∧ fault = .invalidPath path) ∧
      (∀ path url, recordUrl db path = .ok url →
        ∃ made, addressFor db path = .ok made ∧ made.text = url ∧ Url.path (pathChars made.path) = made.path ∧
          (Follows db (levelNames (segments path)) made ↔
            (∀ key ∈ segments path, Kept key) ∧ db.address.path ≠ [[], []])) ∧
      (∀ path other url, (∀ key ∈ segments path, Kept key) → (∀ key ∈ segments other, Kept key) →
        recordUrl db path = .ok url → recordUrl db other = .ok url → segments path = segments other) := by
  refine ⟨read_of_connect h, fun path fault => recordUrl_eq_error_iff, ?_, ?_⟩
  · intro path url found
    obtain ⟨made, address, text⟩ := recordUrl_eq_ok_iff.1 found
    exact ⟨made, address, text, path_pathChars_of_addressFor h address,
      follows_iff (settledPath_of_connect h).2 address⟩
  · intro path other url kept kept' found found'
    exact segments_of_recordUrl_eq h kept kept' found found'

/-- What a run finds of the database that settings describe. -/
theorem exists_connect {config : RemoteConfig} {found : Database → Bool}
    (h : (connect config).toOption.any found = true) : ∃ db, connect config = .ok db ∧ found db = true := by
  cases connected : connect config with
  | error fault => rw [connected] at h; cases h
  | ok db => rw [connected] at h; exact ⟨db, rfl, h⟩

theorem eq_ok_of_toOption {ε α : Type} {e : Except ε α} {a : α} (h : e.toOption = some a) : e = .ok a := by
  cases e <;> cases h
  rfl

/-- A record below a path with a query is two levels more, and the query stays. -/
theorem user_record_keeps_structure :
    ∃ db, connect { databaseUrl := "http://[::1]/ns?x" } = .ok db ∧
      recordUrl db "users/u1" = .ok "http://[::1]/ns/users/u1.json?x" ∧
      ∃ made, addressFor db "users/u1" = .ok made ∧ Follows db ["users", "u1.json"] made := by
  obtain ⟨db, connected, run⟩ : ∃ db, connect { databaseUrl := "http://[::1]/ns?x" } = .ok db ∧
      decide ((recordUrl db "users/u1").toOption = some "http://[::1]/ns/users/u1.json?x" ∧
        db.address.path = ["ns".toList]) = true := exists_connect (by decide +kernel)
  obtain ⟨text, base⟩ := of_decide_eq_true run
  have found := eq_ok_of_toOption text
  obtain ⟨-, -, keeps, -⟩ := recordUrl_structure connected
  obtain ⟨made, address, -, -, follows⟩ := keeps _ _ found
  have kept : ∀ key ∈ segments "users/u1", Kept key := by decide +kernel
  refine ⟨db, connected, found, made, address, ?_⟩
  exact follows.2 ⟨kept, by rw [base]; decide⟩

/-- A tab in a key is lost, and with it what tells two paths apart. -/
theorem tab_is_lost :
    ∃ db, connect { databaseUrl := "http://[::1]" } = .ok db ∧
      recordUrl db "a\tb" = .ok "http://[::1]/ab.json" ∧ recordUrl db "ab" = .ok "http://[::1]/ab.json" ∧
      segments "a\tb" ≠ segments "ab" := by
  obtain ⟨db, connected, run⟩ : ∃ db, connect { databaseUrl := "http://[::1]" } = .ok db ∧
      decide ((recordUrl db "a\tb").toOption = some "http://[::1]/ab.json" ∧
        (recordUrl db "ab").toOption = some "http://[::1]/ab.json") = true :=
    exists_connect (by decide +kernel)
  obtain ⟨first, second⟩ := of_decide_eq_true run
  exact ⟨db, connected, eq_ok_of_toOption first, eq_ok_of_toOption second, by decide +kernel⟩

end Realtime

end Store

end CodeGate
