import CodeGate.Proofs.Json.Canonical
import CodeGate.Proofs.Json.Documents
import Mathlib.Data.Nat.Digits.Defs

/-!
# What is printed is spelled

The compact text of a value spells it: each string comes back character by character, escaped or not, each
integer digit by digit, and the members of an object in their order. Only a value whose numbers are all
integers of 64 bits is considered; numbers with a fraction are printed by other rules.
-/

namespace CodeGate.Json

open CodeGate.Text

/-! ## Values that are printed -/

namespace Value

mutual

/-- Every number of the value is an integer that fits 64 bits, with or without a sign. -/
def Whole : Value → Prop
  | number (.integer n) => -Word.half ≤ n ∧ n < Word.count
  | number (.float _) => False
  | list items => WholeItems items
  | object ms => WholeMembers ms
  | _ => True

/-- Every value of the list has integers only. -/
def WholeItems : List Value → Prop
  | [] => True
  | v :: vs => v.Whole ∧ WholeItems vs

/-- Every value of the members has integers only. -/
def WholeMembers : List (String × Value) → Prop
  | [] => True
  | (_, v) :: ms => v.Whole ∧ WholeMembers ms

end

mutual

/-- How many lists and objects stand one in another. -/
def nesting : Value → Nat
  | list items => nestingItems items + 1
  | object ms => nestingMembers ms + 1
  | _ => 0

/-- The nesting of the deepest value of the list. -/
def nestingItems : List Value → Nat
  | [] => 0
  | v :: vs => max v.nesting (nestingItems vs)

/-- The nesting of the deepest value of the members. -/
def nestingMembers : List (String × Value) → Nat
  | [] => 0
  | (_, v) :: ms => max v.nesting (nestingMembers ms)

end

theorem wholeItems_iff {vs : List Value} : WholeItems vs ↔ ∀ v ∈ vs, v.Whole := by
  induction vs with
  | nil => simp [WholeItems]
  | cons v vs ih => rw [WholeItems, ih, List.forall_mem_cons]

theorem nestingItems_le_iff {vs : List Value} {d : Nat} : nestingItems vs ≤ d ↔ ∀ v ∈ vs, v.nesting ≤ d := by
  induction vs with
  | nil => simp [nestingItems]
  | cons v vs ih => rw [nestingItems, Nat.max_le, ih, List.forall_mem_cons]

end Value

/-! ## Strings -/

/-- How a character of a string is printed: by an escape if it may not stand there as itself. -/
def Mark.of (c : Char) : Mark :=
  if c = '"' ∨ c = '\\' ∨ c.toNat < 0x20 then .escape c else .plain c

/-- The marks that a string is printed as. -/
def printedMarks (s : String) : List Mark := s.toList.map Mark.of

theorem hexFour_of_control :
    ∀ n < 0x20, ∃ a b c d, hexFour n = [a, b, c, d] ∧
      hexFour? (.char a) (.char b) (.char c) (.char d) = some n ∧ isLowSurrogate n = false ∧
        isHighSurrogate n = false := by
  intro n hn
  refine ⟨_, _, _, _, rfl, ?_⟩
  revert n
  decide

/-- Some characters have an escape of one letter. -/
theorem stringChar_letter :
    ∀ c ∈ ['"', '\\', '\x08', '\t', '\n', '\x0C', '\r'],
      ∃ l, stringChar c = ['\\', l] ∧ letterEscape? l = some c := by
  simp only [List.forall_mem_cons]
  exact ⟨⟨'"', rfl, rfl⟩, ⟨'\\', rfl, rfl⟩, ⟨'b', rfl, rfl⟩, ⟨'t', rfl, rfl⟩, ⟨'n', rfl, rfl⟩, ⟨'f', rfl, rfl⟩,
    ⟨'r', rfl, rfl⟩, nofun⟩

/-- Every other control character is printed by its number. -/
theorem stringChar_control {c : Char} (noLetter : c ∉ ['"', '\\', '\x08', '\t', '\n', '\x0C', '\r'])
    (control : c.toNat < 0x20) : stringChar c = '\\' :: 'u' :: hexFour c.toNat := by
  simp only [List.mem_cons, not_or] at noLetter
  obtain ⟨noQuote, noBackslash, noBack, noTab, noLine, noForm, noReturn, -⟩ := noLetter
  rw [stringChar, if_neg noQuote, if_neg noBackslash, if_neg (Nat.not_le.2 control), if_neg noBack, if_neg noTab,
    if_neg noLine, if_neg noForm, if_neg noReturn]

/-- What a character is printed as: itself if it is an ordinary one, or else a backslash and its escape. -/
theorem stringChar_cases (c : Char) :
    (Ordinary c ∧ Mark.of c = .plain c ∧ stringChar c = [c]) ∨
      Mark.of c = .escape c ∧ ∃ a, stringChar c = '\\' :: a ∧ Escaped a c := by
  by_cases special : c = '"' ∨ c = '\\' ∨ c.toNat < 0x20
  · refine .inr ⟨if_pos special, ?_⟩
    by_cases letter : c ∈ ['"', '\\', '\x08', '\t', '\n', '\x0C', '\r']
    · obtain ⟨l, printed, stands⟩ := stringChar_letter c letter
      exact ⟨[l], printed, .letter stands⟩
    · have control : c.toNat < 0x20 := by
        rcases special with rfl | rfl | control
        · exact absurd List.mem_cons_self letter
        · exact absurd (List.mem_cons_of_mem _ List.mem_cons_self) letter
        · exact control
      obtain ⟨x, y, z, w, digits, number, notLow, notHigh⟩ := hexFour_of_control c.toNat control
      have escaped := Escaped.number (.four number) notLow notHigh
      rw [Char.ofNat_toNat, ← digits] at escaped
      exact ⟨_, stringChar_control letter control, escaped⟩
  · have kept : Mark.of c = .plain c := if_neg special
    simp only [not_or, Nat.not_lt] at special
    obtain ⟨noQuote, noEscape, noControl⟩ := special
    refine .inl ⟨⟨noQuote, noEscape, noControl⟩, kept, ?_⟩
    rw [stringChar, if_neg noQuote, if_neg noEscape, if_pos noControl]

theorem stringSpelled_printed (s : String) : StringSpelled (s.toList.flatMap stringChar) (printedMarks s) := by
  rw [printedMarks]
  induction s.toList with
  | nil => exact .nil
  | cons c cs ih =>
    rw [List.flatMap_cons, List.map_cons]
    rcases stringChar_cases c with ⟨ordinary, kept, written⟩ | ⟨kept, a, written, escaped⟩
    · rw [kept, written]
      exact .plain ordinary ih
    · rw [kept, written]
      exact .escape escaped ih

theorem markText_printed (s : String) : markText (fun c => [c]) (printedMarks s) = s := by
  have each : ∀ c, (Mark.of c).chars (fun c => [c]) = [c] := by
    intro c
    unfold Mark.of
    split <;> rfl
  simp only [markText, printedMarks, List.flatMap_map, each]
  simp

/-! ## Integers -/

theorem digit?_digitChar {d : Nat} (h : d < 10) : digit? (.char (Nat.digitChar d)) = some d := by
  revert d
  decide

theorem spanDigits_digits {ds : List Nat} (h : ∀ d ∈ ds, d < 10) :
    spanDigits ((ds.map Nat.digitChar).map .char) = (ds, []) := by
  induction ds with
  | nil => rfl
  | cons d ds ih =>
    obtain ⟨first, later⟩ := List.forall_mem_cons.1 h
    rw [List.map_cons, List.map_cons, spanDigits_cons (digit?_digitChar first), ih later]

/-- The digits of a positive number that fits, by strong induction: those of a tenth of it, and the last. -/
theorem exists_digits {n : Nat} (positive : 0 < n) (fits : n < significandLimit) :
    ∃ d ds, d ≠ 0 ∧ (∀ x ∈ d :: ds, x < 10) ∧ Nat.toDigits 10 n = (d :: ds).map Nat.digitChar ∧
      ds.foldl Significand.pushWhole ⟨d, 0, false⟩ = ⟨n, 0, false⟩ := by
  induction n using Nat.strongRecOn with
  | ind n ih =>
    by_cases small : n < 10
    · exact ⟨n, [], by omega, by simpa using small, by simp [Nat.toDigits_of_lt_base small], rfl⟩
    · have tenth : 0 < n / 10 := by omega
      obtain ⟨d, ds, notZero, digits, written, folded⟩ := ih (n / 10) (by omega) tenth (by omega)
      have last : n % 10 < 10 := Nat.mod_lt _ (by decide)
      have whole : 10 * (n / 10) + n % 10 = n := Nat.div_add_mod n 10
      refine ⟨d, ds ++ [n % 10], notZero, ?_, ?_, ?_⟩
      · rw [← List.cons_append]
        exact List.forall_mem_append.2 ⟨digits, by simpa using last⟩
      · have split := Nat.toDigits_append_toDigits (b := 10) (by decide) tenth last
        rw [whole, written, Nat.toDigits_of_lt_base last] at split
        rw [← split]
        simp
      · have same : n / 10 * 10 + n % 10 = n := by omega
        rw [List.foldl_append, folded, List.foldl_cons, List.foldl_nil, Significand.pushWhole]
        simp only [same, Bool.false_or, decide_eq_true_eq, if_neg (Nat.not_le.2 fits)]

/-- Digits that are read in one go are a number of their own. -/
theorem yields_digits {negative : Bool} {n : Nat} {number : Number} (fits : n < significandLimit)
    (value : wholeValue? negative ⟨n, 0, false⟩ = some number) :
    Yields (unsignedNumber negative ((Nat.toDigits 10 n).map .char)) number [] := by
  have tail : ∀ {bound : Nat} (h : ([] : List Glyph).length < bound),
      Yields (numberTail negative ⟨n, 0, false⟩ [] h) number [] := fun h =>
    (yields_numberTail_whole ends_nil.noPoint ends_nil.noSmall ends_nil.noLarge).2 ⟨value, rfl⟩
  rcases Nat.eq_zero_or_pos n with rfl | positive
  · exact (yields_unsignedNumber_zero (by decide)).2 ⟨ends_nil.noDigit, tail _⟩
  · obtain ⟨d, ds, notZero, digits, written, folded⟩ := exists_digits positive fits
    obtain ⟨first, later⟩ := List.forall_mem_cons.1 digits
    rw [written, List.map_cons, List.map_cons, yields_unsignedNumber_digit (digit?_digitChar first) notZero]
    simp only [spanDigits_digits later, folded]
    exact tail _

theorem numberSpelled_integer {n : Int} (low : -Word.half ≤ n) (high : n < Word.count) :
    NumberSpelled (integerText n) (.integer n) := by
  have halves : Word.half < Word.count := by decide
  unfold integerText
  split
  · next below =>
    refine .negative (yields_digits (show n.natAbs < Word.count by omega) ?_)
    have inRange : ¬(n.natAbs = 0 ∨ Word.half < n.natAbs) := by omega
    have back : -(n.natAbs : Int) = n := by omega
    simp only [wholeValue?, Bool.not_true, Bool.false_eq_true, if_false, if_neg inRange, back]
  · next notBelow =>
    refine .positive (yields_digits (show n.natAbs < Word.count by omega) ?_)
    have back : (n.natAbs : Int) = n := by omega
    simp [wholeValue?, back]

/-! ## Values -/

namespace Value

mutual

/-- How a value is written when it is printed. -/
def written : Value → Written
  | null => .null
  | bool b => .bool b
  | number n => .number n
  | string s => .string (printedMarks s)
  | list items => .list (writtenItems items)
  | object ms => .object (writtenMembers ms)

/-- How the items of a list are written. -/
def writtenItems : List Value → List Written
  | [] => []
  | v :: vs => v.written :: writtenItems vs

/-- How members are written, in their order. -/
def writtenMembers : List (String × Value) → List (List Mark × Written)
  | [] => []
  | (k, v) :: ms => (printedMarks k, v.written) :: writtenMembers ms

end

theorem writtenItems_eq (vs : List Value) : writtenItems vs = vs.map written := by
  induction vs with
  | nil => rfl
  | cons v vs ih => rw [writtenItems, ih, List.map_cons]

/-- How a member is written. -/
def writtenMember (m : String × Value) : List Mark × Written := (printedMarks m.1, m.2.written)

theorem writtenMembers_eq (ms : List (String × Value)) : writtenMembers ms = ms.map writtenMember := by
  induction ms with
  | nil => rfl
  | cons m ms ih => rw [writtenMembers, ih, List.map_cons, writtenMember]

/-! ## Rows -/

section Rows

variable {β : Type}

theorem row_charsItems {Entry : List Char → β → Prop} {f : Value → β} {vs : List Value}
    (each : ∀ v ∈ vs, Entry v.chars (f v)) : ∃ a, charsItems vs = a ++ [']'] ∧ Row Entry false a (vs.map f) := by
  induction vs with
  | nil => exact ⟨[], rfl, .stop blank_nil⟩
  | cons v vs ih =>
    obtain ⟨here, later⟩ := List.forall_mem_cons.1 each
    obtain ⟨a, split, row⟩ := ih later
    refine ⟨',' :: (v.chars ++ a), ?_, .more (.later blank_nil blank_nil) here row⟩
    rw [charsItems, split]
    simp

/-- The text of a list is a row of the texts of its items. -/
theorem row_list {Entry : List Char → β → Prop} {f : Value → β} {vs : List Value}
    (each : ∀ v ∈ vs, Entry v.chars (f v)) :
    ∃ a, (list vs).chars = '[' :: (a ++ [']']) ∧ Row Entry true a (vs.map f) := by
  cases vs with
  | nil => exact ⟨[], rfl, .stop blank_nil⟩
  | cons v vs =>
    obtain ⟨here, later⟩ := List.forall_mem_cons.1 each
    obtain ⟨a, split, row⟩ := row_charsItems later
    refine ⟨v.chars ++ a, ?_, .more (.first blank_nil) here row⟩
    show '[' :: v.chars ++ charsItems vs = _
    rw [split]
    simp

theorem row_charsMembers {Entry : List Char → β → Prop} {f : String × Value → β} {ms : List (String × Value)}
    (each : ∀ m ∈ ms, Entry (stringText m.1 ++ ':' :: m.2.chars) (f m)) :
    ∃ a, charsMembers ms = a ++ ['\x7d'] ∧ Row Entry false a (ms.map f) := by
  induction ms with
  | nil => exact ⟨[], rfl, .stop blank_nil⟩
  | cons m ms ih =>
    obtain ⟨here, later⟩ := List.forall_mem_cons.1 each
    obtain ⟨a, split, row⟩ := ih later
    refine ⟨',' :: (stringText m.1 ++ ':' :: m.2.chars ++ a), ?_, .more (.later blank_nil blank_nil) here row⟩
    rw [charsMembers, split]
    simp

/-- The text of an object is a row of its keys and the texts of its values. -/
theorem row_object {Entry : List Char → β → Prop} {f : String × Value → β} {ms : List (String × Value)}
    (each : ∀ m ∈ ms, Entry (stringText m.1 ++ ':' :: m.2.chars) (f m)) :
    ∃ a, (object ms).chars = '\x7b' :: (a ++ ['\x7d']) ∧ Row Entry true a (ms.map f) := by
  cases ms with
  | nil => exact ⟨[], rfl, .stop blank_nil⟩
  | cons m ms =>
    obtain ⟨here, later⟩ := List.forall_mem_cons.1 each
    obtain ⟨a, split, row⟩ := row_charsMembers later
    refine ⟨stringText m.1 ++ ':' :: m.2.chars ++ a, ?_, .more (.first blank_nil) here row⟩
    show '\x7b' :: stringText m.1 ++ ':' :: m.2.chars ++ charsMembers ms = _
    rw [split]
    simp

end Rows

theorem memberSpelled_printed {Inner : List Char → Written → Prop} {m : String × Value}
    (spelled : Inner m.2.chars m.2.written) :
    MemberSpelled Inner (stringText m.1 ++ ':' :: m.2.chars) (writtenMember m) := by
  have member := MemberSpelled.mk (stringSpelled_printed m.1) blank_nil blank_nil spelled
  simpa [stringText, writtenMember] using member

mutual

/-- The compact text of a value with integers only spells it at every depth that is enough. -/
theorem spelled_chars : (v : Value) → v.Whole → ∀ {d}, v.nesting ≤ d → Spelled d v.chars v.written
  | null, _, _, _ => .scalar .null
  | bool true, _, _, _ => .scalar .true
  | bool false, _, _, _ => .scalar .false
  | string s, _, _, _ => .scalar (.string (stringSpelled_printed s))
  | number (.integer _), whole, _, _ => .scalar (.number (numberSpelled_integer whole.1 whole.2))
  | list items, whole, d, deep => by
    obtain ⟨d, rfl⟩ : ∃ e, d = e + 1 := Nat.exists_eq_add_one.2 (by rw [nesting] at deep; omega)
    rw [nesting, Nat.add_le_add_iff_right] at deep
    obtain ⟨a, split, row⟩ := row_list (spelled_items items whole deep)
    rw [split, written, writtenItems_eq]
    exact Layer.list row
  | object ms, whole, d, deep => by
    obtain ⟨d, rfl⟩ : ∃ e, d = e + 1 := Nat.exists_eq_add_one.2 (by rw [nesting] at deep; omega)
    rw [nesting, Nat.add_le_add_iff_right] at deep
    obtain ⟨a, split, row⟩ := row_object fun m h => memberSpelled_printed (spelled_members ms whole deep m h)
    rw [split, written, writtenMembers_eq]
    exact Layer.object row

theorem spelled_items : (vs : List Value) → WholeItems vs → ∀ {d}, nestingItems vs ≤ d →
    ∀ v ∈ vs, Spelled d v.chars v.written
  | [], _, _, _ => nofun
  | v :: vs, ⟨here, later⟩, d, deep => by
    rw [nestingItems, Nat.max_le] at deep
    exact List.forall_mem_cons.2 ⟨spelled_chars v here deep.1, spelled_items vs later deep.2⟩

theorem spelled_members : (ms : List (String × Value)) → WholeMembers ms → ∀ {d}, nestingMembers ms ≤ d →
    ∀ m ∈ ms, Spelled d m.2.chars m.2.written
  | [], _, _, _ => nofun
  | (_, v) :: ms, ⟨here, later⟩, d, deep => by
    rw [nestingMembers, Nat.max_le] at deep
    exact List.forall_mem_cons.2 ⟨spelled_chars v here deep.1, spelled_members ms later deep.2⟩

end

/-- The members of an object whose keys ascend are put in one by one at the end. -/
theorem ofList_of_ascending {ms : Members} (h : Members.Ascending ms) : Members.ofList ms = ms := by
  apply (Members.ascending_ofList ms).ext h
  intro key
  rw [Members.get?_ofList, h.last?_eq]

mutual

/-- A canonical value is what it is written as when it is printed. -/
theorem value_written : (v : Value) → v.Canonical → v.written.value (fun c => [c]) = v
  | null, _ | bool _, _ | number _, _ => rfl
  | string s, _ => congrArg string (markText_printed s)
  | list items, canonical => congrArg list (valueItems_written items canonical)
  | object ms, canonical => by
    rw [written, Written.value, valueMembers_written ms canonical.2, ofList_of_ascending canonical.1]

theorem valueItems_written : (vs : List Value) → CanonicalItems vs →
    Written.valueItems (fun c => [c]) (writtenItems vs) = vs
  | [], _ => rfl
  | v :: vs, ⟨here, later⟩ => by
    rw [writtenItems, Written.valueItems, value_written v here, valueItems_written vs later]

theorem valueMembers_written : (ms : List (String × Value)) → CanonicalMembers ms →
    Written.valueMembers (fun c => [c]) (writtenMembers ms) = ms
  | [], _ => rfl
  | (key, v) :: ms, ⟨here, later⟩ => by
    rw [writtenMembers, Written.valueMembers, markText_printed, value_written v here,
      valueMembers_written ms later]

end

end Value

end CodeGate.Json
