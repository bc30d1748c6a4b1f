import CodeGate.Proofs.Gate.Sanitize
import CodeGate.Proofs.Json.Grammar
import CodeGate.Proofs.Json.Members

/-!
# Brackets in values

A value is bare if no string and no key in it holds an angle bracket. What a sanitized text is worth is
bare exactly if no escape of a string or a key stands for a bracket; a member that a later one replaces
does not count.
-/

namespace CodeGate.Json

/-! ## Bare values -/

/-- Characters none of which is an angle bracket. -/
def BareChars (cs : List Char) : Prop := ∀ c ∈ cs, c ≠ '<' ∧ c ≠ '>'

/-- A text without angle brackets. -/
def BareText (s : String) : Prop := BareChars s.toList

instance : DecidablePred BareChars := fun cs => List.decidableBAll _ cs

instance : DecidablePred BareText := fun s => inferInstanceAs (Decidable (BareChars s.toList))

namespace Value

mutual

/-- No string and no key inside the value holds an angle bracket. -/
def Bare : Value → Prop
  | string text => BareText text
  | list items => BareItems items
  | object ms => BareMembers ms
  | _ => True

/-- Every value of the list is bare. -/
def BareItems : List Value → Prop
  | [] => True
  | v :: vs => v.Bare ∧ BareItems vs

/-- Every key and every value of the members is bare. -/
def BareMembers : List (String × Value) → Prop
  | [] => True
  | (key, v) :: ms => BareText key ∧ v.Bare ∧ BareMembers ms

end

theorem bareMembers_iff (ms : List (String × Value)) :
    BareMembers ms ↔ ∀ m ∈ ms, BareText m.1 ∧ m.2.Bare := by
  induction ms with
  | nil => simp [BareMembers]
  | cons m ms ih => rw [BareMembers, ih, List.forall_mem_cons, and_assoc]

end Value

/-! ## Clean trees -/

/-- A mark that is no bracket by an escape. -/
def Mark.Clean : Mark → Prop
  | .plain _ => True
  | .escape c => c ≠ '<' ∧ c ≠ '>'

/-- Marks none of which is a bracket by an escape. -/
def CleanMarks (marks : List Mark) : Prop := ∀ m ∈ marks, m.Clean

/-- The texts of the keys of members, as they are saved. -/
def keyTexts (ms : List (List Mark × Written)) : List String := ms.map fun m => markText Gate.entity m.1

namespace Written

mutual

/-- No escape in a string or a key of the tree stands for a bracket, but for members that are replaced. -/
def Clean : Written → Prop
  | string marks => CleanMarks marks
  | list items => CleanItems items
  | object ms => CleanMembers ms
  | _ => True

/-- Every tree of the list is clean. -/
def CleanItems : List Written → Prop
  | [] => True
  | t :: ts => t.Clean ∧ CleanItems ts

/-- Every member is clean or replaced by a later one with the same key. -/
def CleanMembers : List (List Mark × Written) → Prop
  | [] => True
  | (key, t) :: ms =>
    (markText Gate.entity key ∈ keyTexts ms ∨ (CleanMarks key ∧ t.Clean)) ∧ CleanMembers ms

end

end Written

/-! ## What a clean tree is worth -/

/-- What the gate writes for a character holds no bracket. -/
theorem bareChars_entity (c : Char) : BareChars (Gate.entity c) := by
  unfold Gate.entity
  split
  · decide
  · split
    · decide
    · next less greater => simpa [BareChars] using ⟨less, greater⟩

theorem bareChars_chars_iff (m : Mark) : BareChars (m.chars Gate.entity) ↔ m.Clean := by
  cases m with
  | plain c => simpa [Mark.chars, Mark.Clean] using bareChars_entity c
  | escape c => simp [Mark.chars, Mark.Clean, BareChars]

theorem bareText_markText_iff (marks : List Mark) :
    BareText (markText Gate.entity marks) ↔ CleanMarks marks := by
  simp only [BareText, markText, String.toList_ofList, CleanMarks, ← bareChars_chars_iff]
  unfold BareChars
  simp only [List.mem_flatMap]
  exact ⟨fun all m hm c hc => all c ⟨m, hm, hc⟩, fun all c ⟨m, hm, hc⟩ => all m hm c hc⟩

mutual

/-- What is saved for a tree is bare exactly if the tree is clean. -/
theorem bare_value_iff : (t : Written) → ((t.value Gate.entity).Bare ↔ t.Clean)
  | .null => by simp [Written.value, Value.Bare, Written.Clean]
  | .bool _ => by simp [Written.value, Value.Bare, Written.Clean]
  | .number _ => by simp [Written.value, Value.Bare, Written.Clean]
  | .string marks => by
    rw [Written.value, Value.Bare, Written.Clean]
    exact bareText_markText_iff marks
  | .list items => by
    rw [Written.value, Value.Bare, Written.Clean]
    exact bare_valueItems_iff items
  | .object ms => by
    rw [Written.value, Value.Bare, Written.Clean]
    exact bare_valueMembers_iff ms

theorem bare_valueItems_iff : (ts : List Written) →
    (Value.BareItems (Written.valueItems Gate.entity ts) ↔ Written.CleanItems ts)
  | [] => by rw [Written.valueItems, Value.BareItems, Written.CleanItems]
  | t :: ts => by
    rw [Written.valueItems, Value.BareItems, Written.CleanItems, bare_value_iff t, bare_valueItems_iff ts]

theorem bare_valueMembers_iff : (ms : List (List Mark × Written)) →
    (Value.BareMembers (Members.ofList (Written.valueMembers Gate.entity ms)) ↔ Written.CleanMembers ms)
  | [] => by simp [Written.valueMembers, Members.ofList, Value.BareMembers, Written.CleanMembers]
  | (key, t) :: ms => by
    have keys : (Written.valueMembers Gate.entity ms).map Prod.fst = keyTexts ms := by
      simp [Written.valueMembers_eq, keyTexts, memberValue]
    have later := bare_valueMembers_iff ms
    rw [Value.bareMembers_iff] at later ⊢
    rw [Written.valueMembers, Members.forall_mem_ofList_cons, later, keys, bareText_markText_iff,
      bare_value_iff t,
      Written.CleanMembers]

end

end CodeGate.Json
