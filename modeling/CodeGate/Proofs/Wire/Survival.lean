import CodeGate.Proofs.Json.Printed
import CodeGate.Proofs.Wire.Slots

/-!
# Records survive the wire

The text that a record is written as is read as the record. The same record is read from every object that gives
its members, whatever their order, the white space between them and the members with other names among them; an
object that names a slot twice is refused.
-/

namespace CodeGate.Wire

open CodeGate.Text CodeGate.Json

variable {α : Type}

/-! ## Objects that give a record -/

/-- A text spells a value as deep as the members of a record may be. -/
def Spells (text : List Char) (v : Value) : Prop :=
  ∃ t, Spelled (maxDepth - 1) text t ∧ t.value (fun c => [c]) = v

/-- Members of an object give those of a record: each name once, in any order, with a text that spells the value;
of members with other names only the form is asked. -/
structure Gives (members : List (String × Value)) (ms : List (String × List Char)) : Prop where
  names : ((ms.map Prod.fst).filter (· ∈ members.map Prod.fst)).Perm (members.map Prod.fst)
  own : ∀ m ∈ ms, ∀ v, (m.1, v) ∈ members → Spells m.2 v
  others : ∀ m ∈ ms, m.1 ∉ members.map Prod.fst → ∃ d, Formed d m.2

/-- What it is for the records of a shape to survive the wire. `members` are the names and values of a record, and
`Sound` says that its values are such that their text spells them. -/
structure Survives (shape : Shape α) (write : α → String) (members : α → List (String × Value)) (Sound : α → Prop) :
    Prop where
  written (a : α) : write a = recordText (members a)
  back {a : α} (sound : Sound a) : readText shape (write a) = .ok a
  object {a : α} {text : String} {ms : List (String × List Char)} (object : ObjectText text.toList ms)
    (gives : Gives (members a) ms) : readText shape text = .ok a
  twice {text : String} {ms : List (String × List Char)} {name : String} (object : ObjectText text.toList ms)
    (formed : ∀ m ∈ ms, ∃ d, Formed d m.2) (slot : name ∈ shape.names) (twice : 1 < (ms.map Prod.fst).count name) :
    ∃ message, readText shape text = .error message

/-! ## Reading -/

theorem readText_eq_ok_iff {shape : Shape α} {text : String} {a : α} :
    readText shape text = .ok a ↔ shape.readWhole (spread (fun c => [c]) text.toList) = .ok a := by
  rw [← ofString_eq_spread]
  unfold readText
  dsimp only
  split
  · next found => simp [found]
  · next failed => simp [failed]

namespace Filled

variable {shape : Shape α} {fields : List (Field α)} {a : α} {ms : List (String × List Char)}
  (filled : Filled shape fields a)
include filled

theorem names_members : (fields.map Field.member).map Prod.fst = shape.names := by
  rw [filled.names, List.map_map]
  rfl

/-- The text of a member that is given settles what the member does to the record. -/
theorem settles (gives : Gives (fields.map Field.member) ms) {m : String × List Char} (mem : m ∈ ms) :
    shape.Settles (maxDepth - 1) (change fields) m := by
  cases known : shape.slots.find? (·.name = m.1) with
  | none =>
    have unknown := Shape.find?_eq_none_iff.1 known
    obtain ⟨d, formed⟩ := gives.others m mem (filled.names_members ▸ unknown)
    exact .other unknown (change_of_notMem (filled.names ▸ unknown)) (skips_of_formed formed)
  | some slot =>
    obtain ⟨field, here, fits⟩ := exists_fits_of_mem filled.fits (List.mem_of_find?_eq_some known)
    have named : field.name = m.1 := fits.named.symm.trans (by simpa using List.find?_some known)
    obtain ⟨t, spelled, value⟩ := gives.own m mem field.value (named ▸ List.mem_map_of_mem here)
    refine .own known fun blank stops => ?_
    have found := (faithful_value quiet_self (maxDepth - 1)).found blank spelled stops
    rw [← named, filled.change_of_mem here]
    exact fits.takes (value ▸ found)

/-- **Any order, any space, others among them.** An object that gives the members of a record is read as the
record. -/
theorem readText_of_gives {text : String} (object : ObjectText text.toList ms)
    (gives : Gives (fields.map Field.member) ms) : readText shape text = .ok a := by
  have names := gives.names
  rw [filled.names_members] at names
  have once : (shape.own ms).Nodup := by
    rw [Shape.own, names.nodup_iff, filled.names]
    exact filled.distinct
  have complete : ∀ slot ∈ shape.slots, slot.required = true → slot.name ∈ shape.own ms := by
    intro slot mem _
    rw [Shape.own, names.mem_iff]
    exact List.mem_map_of_mem mem
  have read := Shape.readWhole_of_objectText object (fun m mem => filled.settles gives mem) once complete
  rw [filled.names] at names
  rw [readText_eq_ok_iff, read, ← List.foldl_map (f := Prod.fst) (g := fun r name => change fields name r),
    filled.foldl_change names]

/-- **No field twice.** An object that names a slot twice is refused. -/
theorem refused_of_twice {text : String} {name : String} (object : ObjectText text.toList ms)
    (formed : ∀ m ∈ ms, ∃ d, Formed d m.2) (slot : name ∈ shape.names) (twice : 1 < (ms.map Prod.fst).count name) :
    ∃ message, readText shape text = .error message := by
  cases read : readText shape text with
  | error message => exact ⟨message, rfl⟩
  | ok b =>
    have values : ∀ slot ∈ shape.slots, slot.TakesValues := by
      intro slot mem
      obtain ⟨field, -, fits⟩ := exists_fits_of_mem filled.fits mem
      exact fits.values
    have once := Shape.once_of_readWhole object formed values (readText_eq_ok_iff.1 read)
    have twice : 1 < (shape.own ms).count name := by
      rwa [Shape.own, List.count_filter (by simpa using slot)]
    exact absurd (List.nodup_iff_count_le_one.1 once name) (Nat.not_le.2 twice)

end Filled

/-! ## Writing -/

/-- A value whose compact text spells it, as deep as the members of a record may be. -/
structure Printable (v : Value) : Prop where
  canonical : v.Canonical
  whole : v.Whole
  shallow : v.nesting ≤ maxDepth - 1

theorem Printable.spells {v : Value} (h : Printable v) : Spells v.chars v :=
  ⟨v.written, v.spelled_chars h.whole h.shallow, v.value_written h.canonical⟩

theorem printable_string (s : String) : Printable (.string s) where
  canonical := trivial
  whole := trivial
  shallow := Nat.zero_le _

theorem printable_textOrNull (t? : Option String) : Printable (textOrNull t?) := by
  cases t? with
  | none => exact ⟨trivial, trivial, Nat.zero_le _⟩
  | some t => exact printable_string t

theorem printable_natural {n : Nat} (h : n < Word.count) : Printable (.number (.integer n)) where
  canonical := trivial
  whole := ⟨by have := Int.natCast_nonneg Word.half; omega, by omega⟩
  shallow := Nat.zero_le _

theorem printable_texts (ts : List String) : Printable (texts ts) := by
  have each : ∀ v ∈ ts.map Value.string, Printable v := by
    intro v mem
    obtain ⟨t, -, rfl⟩ := List.mem_map.1 mem
    exact printable_string t
  refine ⟨(Value.canonicalItems_iff _).2 fun v mem => (each v mem).canonical,
    Value.wholeItems_iff.2 fun v mem => (each v mem).whole, ?_⟩
  have flat : Value.nestingItems (ts.map Value.string) ≤ 0 := by
    refine Value.nestingItems_le_iff.2 fun v mem => ?_
    obtain ⟨t, -, rfl⟩ := List.mem_map.1 mem
    exact Nat.le_refl 0
  rw [texts, Value.nesting]
  exact Nat.le_trans (Nat.succ_le_succ flat) (by decide)

section Printing

variable {members : List (String × Value)}

/-- A member with the compact text of its value. -/
def printed (m : String × Value) : String × List Char := (m.1, m.2.chars)

/-- A member whose key is printed. -/
theorem memberText_printed (name : String) {b b' v : List Char} (blank : Blank b) (blank' : Blank b') :
    MemberText ('"' :: (name.toList.flatMap stringChar ++ '"' :: (b ++ ':' :: (b' ++ v)))) (name, v) := by
  have member := MemberText.mk (v := v) (stringSpelled_printed name) blank blank'
  rwa [markText_printed] at member

theorem objectText_recordText (members : List (String × Value)) :
    ObjectText (recordText members).toList (members.map printed) := by
  have each : ∀ m ∈ members, MemberText (stringText m.1 ++ ':' :: m.2.chars) (printed m) := by
    intro m _
    have member := memberText_printed m.1 (v := m.2.chars) blank_nil blank_nil
    simpa [stringText, printed] using member
  obtain ⟨a, split, row⟩ := Value.row_object each
  have object := ObjectText.mk blank_nil row blank_nil
  rwa [List.nil_append, ← split, ← String.toList_ofList (l := Value.chars _)] at object

/-- The members of a record, as they are printed, give those of the record. -/
theorem gives_printed (distinct : (members.map Prod.fst).Nodup) (printable : ∀ m ∈ members, Printable m.2) :
    Gives members (members.map printed) where
  names := by
    have keys : (members.map printed).map Prod.fst = members.map Prod.fst := by
      rw [List.map_map]
      rfl
    have all : (members.map Prod.fst).filter (· ∈ members.map Prod.fst) = members.map Prod.fst :=
      List.filter_eq_self.2 fun _ mem => decide_eq_true mem
    rw [keys, all]
  own m mem v given := by
    obtain ⟨⟨name, w⟩, here, rfl⟩ := List.mem_map.1 mem
    cases List.inj_on_of_nodup_map distinct here given rfl
    exact (printable _ here).spells
  others m mem absent := by
    obtain ⟨n, here, rfl⟩ := List.mem_map.1 mem
    exact absurd (List.mem_map_of_mem here) absent

end Printing

/-- The records of a shape survive the wire if their fields fill the shape and their values are printed well. -/
theorem survives_of_filled {shape : Shape α} {write : α → String} {members : α → List (String × Value)}
    {Sound : α → Prop} {fields : α → List (Field α)} (filled : ∀ a, Filled shape (fields a) a)
    (same : ∀ a, members a = (fields a).map Field.member) (written : ∀ a, write a = recordText (members a))
    (printable : ∀ {a}, Sound a → ∀ m ∈ members a, Printable m.2) : Survives shape write members Sound where
  written := written
  back {a} sound := by
    have distinct : ((members a).map Prod.fst).Nodup := by
      rw [same, (filled a).names_members, (filled a).names]
      exact (filled a).distinct
    have gives := gives_printed distinct (printable sound)
    rw [written]
    exact (filled a).readText_of_gives (objectText_recordText _) (same a ▸ gives)
  object {a _ _} object gives := (filled a).readText_of_gives object (same a ▸ gives)
  twice {_ _ _} object formed slot twice := (filled shape.blank).refused_of_twice object formed slot twice

/-! ## The records -/

namespace ExecutePayload

/-- The members of code to run. -/
def members (p : ExecutePayload) : List (String × Value) := [("code", .string p.code), ("lang", .string p.lang)]

/-- The fields of code to run. -/
def fields (p : ExecutePayload) : List (Field ExecutePayload) :=
  [⟨"code", .string p.code, fun q => { q with code := p.code }⟩,
    ⟨"lang", .string p.lang, fun q => { q with lang := p.lang }⟩]

theorem filled (p : ExecutePayload) : Filled shape (fields p) p where
  fits := .cons ((reads_text _).fits p.code) (.cons ((reads_text _).fits p.lang) .nil)
  distinct := show ["code", "lang"].Nodup by decide
  apart := by simp [fields]
  whole := rfl

theorem survives : Survives shape write members fun _ => True := by
  refine survives_of_filled filled (fun _ => rfl) (fun _ => rfl) ?_
  intro p _
  simp [members, printable_string]

end ExecutePayload

namespace ExecuteResponse

/-- The members of the answer to code that ran. -/
def members (r : ExecuteResponse) : List (String × Value) :=
  [("trace", texts r.trace), ("variables", .object r.bindings)]

/-- The fields of the answer to code that ran. -/
def fields (r : ExecuteResponse) : List (Field ExecuteResponse) :=
  [⟨"trace", texts r.trace, fun q => { q with trace := r.trace }⟩,
    ⟨"variables", .object r.bindings, fun q => { q with bindings := r.bindings }⟩]

theorem filled (r : ExecuteResponse) : Filled shape (fields r) r where
  fits := .cons ((reads_texts _).fits r.trace) (.cons ((reads_object _).fits r.bindings) .nil)
  distinct := show ["trace", "variables"].Nodup by decide
  apart := by simp [fields]
  whole := rfl

theorem survives : Survives shape write members fun r => Printable (.object r.bindings) := by
  refine survives_of_filled filled (fun _ => rfl) (fun _ => rfl) ?_
  intro r sound
  simp [members, printable_texts, sound]

end ExecuteResponse

namespace DetailResponse

/-- The members of the answer of a section. -/
def members (r : DetailResponse) : List (String × Value) := [("detail", .string r.detail)]

/-- The fields of the answer of a section. -/
def fields (r : DetailResponse) : List (Field DetailResponse) := [⟨"detail", .string r.detail, fun _ => ⟨r.detail⟩⟩]

theorem filled (r : DetailResponse) : Filled shape (fields r) r where
  fits := .cons ((reads_text _).fits r.detail) .nil
  distinct := List.nodup_singleton "detail"
  apart := List.pairwise_singleton _ _
  whole := rfl

theorem survives : Survives shape write members fun _ => True := by
  refine survives_of_filled filled (fun _ => rfl) (fun _ => rfl) ?_
  intro r _
  simp [members, printable_string]

end DetailResponse

namespace ErrorBody

/-- The members of the body for a failure. -/
def members (b : ErrorBody) : List (String × Value) := [("code", .string b.code), ("message", .string b.message)]

/-- The fields of the body for a failure. -/
def fields (b : ErrorBody) : List (Field ErrorBody) :=
  [⟨"code", .string b.code, fun q => { q with code := b.code }⟩,
    ⟨"message", .string b.message, fun q => { q with message := b.message }⟩]

theorem filled (b : ErrorBody) : Filled shape (fields b) b where
  fits := .cons ((reads_text _).fits b.code) (.cons ((reads_text _).fits b.message) .nil)
  distinct := show ["code", "message"].Nodup by decide
  apart := by simp [fields]
  whole := rfl

theorem survives : Survives shape write members fun _ => True := by
  refine survives_of_filled filled (fun _ => rfl) (fun _ => rfl) ?_
  intro b _
  simp [members, printable_string]

end ErrorBody

section ExecutionResult

/-- The members of the result of running code. -/
def resultMembers (r : ExecutionResult) : List (String × Value) :=
  [("trace", texts r.trace), ("variables", .string r.bindings)]

/-- The fields of the result of running code. -/
def resultFields (r : ExecutionResult) : List (Field ExecutionResult) :=
  [⟨"trace", texts r.trace, fun q => { q with trace := r.trace }⟩,
    ⟨"variables", .string r.bindings, fun q => { q with bindings := r.bindings }⟩]

theorem result_filled (r : ExecutionResult) : Filled executionResultShape (resultFields r) r where
  fits := .cons ((reads_texts _).fits r.trace) (.cons ((reads_text _).fits r.bindings) .nil)
  distinct := show ["trace", "variables"].Nodup by decide
  apart := by simp [resultFields]
  whole := rfl

theorem result_survives : Survives executionResultShape writeExecutionResult resultMembers fun _ => True := by
  refine survives_of_filled result_filled (fun _ => rfl) (fun _ => rfl) ?_
  intro r _
  simp [resultMembers, printable_texts, printable_string]

end ExecutionResult

namespace RemoteConfig

/-- The members of the settings of the remote database. -/
def members (c : RemoteConfig) : List (String × Value) :=
  [("database_url", .string c.databaseUrl), ("auth_token", textOrNull c.authToken),
    ("timeout_ms", .number (.integer c.timeoutMs))]

/-- The fields of the settings of the remote database. -/
def fields (c : RemoteConfig) : List (Field RemoteConfig) :=
  [⟨"database_url", .string c.databaseUrl, fun q => { q with databaseUrl := c.databaseUrl }⟩,
    ⟨"auth_token", textOrNull c.authToken, fun q => { q with authToken := c.authToken }⟩,
    ⟨"timeout_ms", .number (.integer c.timeoutMs), fun q => { q with timeoutMs := c.timeoutMs }⟩]

theorem filled (c : RemoteConfig) : Filled shape (fields c) c where
  fits := .cons ((reads_text _).fits c.databaseUrl) (.cons ((reads_optionalText _).fits c.authToken)
    (.cons ((reads_optionalNatural _).fits c.timeoutMs) .nil))
  distinct := show ["database_url", "auth_token", "timeout_ms"].Nodup by decide
  apart := by simp [fields]
  whole := rfl

theorem survives : Survives shape write members fun c => c.timeoutMs < Word.count := by
  refine survives_of_filled filled (fun _ => rfl) (fun _ => rfl) ?_
  intro c sound
  simp [members, printable_string, printable_textOrNull, printable_natural sound]

end RemoteConfig

/-! ## All records -/

/-- **Records survive the wire.** Of each kind of record, the text that one is written as is read as the same one, and
so is every object that gives its members, in any order, with any white space, and among members with other names; an
object that names a slot twice is refused. Any string will do, and any integer of 64 bits without a sign; the
variables in the answer to code that ran hold integers only, and are as deep as a reader goes. -/
theorem records_survive_wire :
    Survives ExecutePayload.shape ExecutePayload.write ExecutePayload.members (fun _ => True) ∧
      Survives DetailResponse.shape DetailResponse.write DetailResponse.members (fun _ => True) ∧
      Survives ErrorBody.shape ErrorBody.write ErrorBody.members (fun _ => True) ∧
      Survives executionResultShape writeExecutionResult resultMembers (fun _ => True) ∧
      Survives RemoteConfig.shape RemoteConfig.write RemoteConfig.members (fun c => c.timeoutMs < Word.count) ∧
      Survives ExecuteResponse.shape ExecuteResponse.write ExecuteResponse.members
        (fun r => Printable (.object r.bindings)) :=
  ⟨ExecutePayload.survives, DetailResponse.survives, ErrorBody.survives, result_survives, RemoteConfig.survives,
    ExecuteResponse.survives⟩

/-- A section's answer behind a member with a number that no reader of values takes, and with an escape in its
string; and the same answer given twice. -/
theorem detail_behind_other_member :
    readText DetailResponse.shape "\x7b \"x\":1e999, \"detail\" :\"\\u0061\"\x7d" = .ok ⟨"a"⟩ ∧
      ∃ message, readText DetailResponse.shape
        (recordText [("detail", .string "a"), ("detail", .string "a")]) = .error message := by
  have survives := records_survive_wire.2.1
  have number : Formed 0 ['1', 'e', '9', '9', '9'] :=
    .positive (.mk (w := ['1']) (.digits rfl (by decide) nofun) .absent
      (.given (s := ['9', '9', '9']) (.inl rfl) List.mem_cons_self ⟨by decide, List.all_iff_forall_prop.1 (by decide)⟩))
  have text : StringSpelled ['\\', 'u', '0', '0', '6', '1'] [.escape 'a'] :=
    .escape (a := ['u', '0', '0', '6', '1']) (.number (s := ['0', '0', '6', '1']) (n := 97) (.four rfl) rfl rfl) .nil
  have space : Blank [' '] := by simp [Blank]
  have row : Row MemberText true _ [("x", "1e999".toList), ("detail", "\"\\u0061\"".toList)] :=
    .more (.first space) (memberText_printed "x" blank_nil blank_nil)
      (.more (.later blank_nil space) (memberText_printed "detail" space blank_nil) (.stop blank_nil))
  have object : ObjectText "\x7b \"x\":1e999, \"detail\" :\"\\u0061\"\x7d".toList
      [("x", "1e999".toList), ("detail", "\"\\u0061\"".toList)] := by
    have object := ObjectText.mk blank_nil row blank_nil
    simpa [stringChar] using object
  constructor
  · refine survives.object object ⟨by decide, ?_, ?_⟩
    · intro m mem v given
      obtain ⟨named, rfl⟩ : m.1 = "detail" ∧ v = .string "a" := by
        simpa [DetailResponse.members] using given
      rcases List.mem_pair.1 mem with rfl | rfl
      · exact absurd named (by decide)
      · exact ⟨.string [.escape 'a'], .scalar (.string text), rfl⟩
    · intro m mem other
      rcases List.mem_pair.1 mem with rfl | rfl
      · exact ⟨0, number⟩
      · exact absurd List.mem_cons_self other
  · have object := objectText_recordText [("detail", .string "a"), ("detail", .string "a")]
    refine survives.twice object ?_ (show "detail" ∈ ["detail"] from List.mem_cons_self) (by decide)
    have formed : ScalarFormed ('"' :: (['a'] ++ ['"'])) := .string (.plain ⟨by decide, by decide, by decide⟩ .nil)
    intro m mem
    rcases List.mem_pair.1 mem with rfl | rfl
    · exact ⟨0, formed⟩
    · exact ⟨0, formed⟩

end CodeGate.Wire
