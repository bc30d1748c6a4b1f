import CodeGate.Failure
import CodeGate.Proofs.Gate.Sanitize
import Mathlib.Data.String.Basic

/-!
# What the gate lets through

An entity is three characters longer than the bracket it stands for, so the length of a sanitized text is
known from the text. The gate counts the characters of a text only if it has more bytes than characters are
allowed; since every character has a byte at least, it judges the same as if it always counted.

Section 4.1 of the specification sets the limit and the order of the two steps.
-/

namespace CodeGate.Gate

/-- The number of angle brackets in a text. -/
def brackets (raw : String) : Nat := raw.toList.count '<' + raw.toList.count '>'

/-- The length of a text once it is sanitized. -/
def sanitizedLength (raw : String) : Nat := raw.length + 3 * brackets raw

theorem length_flatMap_entity (cs : List Char) :
    (cs.flatMap entity).length = cs.length + 3 * (cs.count '<' + cs.count '>') := by
  induction cs with
  | nil => rfl
  | cons c cs ih =>
    rw [List.flatMap_cons, List.length_append, ih, List.length_cons]
    by_cases less : c = '<'
    · subst less
      have grown : (entity '<').length = 4 := rfl
      rw [grown, List.count_cons_self, List.count_cons_of_ne (by decide)]
      omega
    · by_cases greater : c = '>'
      · subst greater
        have grown : (entity '>').length = 4 := rfl
        rw [grown, List.count_cons_self, List.count_cons_of_ne (by decide)]
        omega
      · rw [entity_of_ne less greater, List.count_cons_of_ne less, List.count_cons_of_ne greater,
          List.length_singleton]
        omega

theorem length_sanitize (raw : String) : (sanitize raw).length = sanitizedLength raw := by
  rw [← String.length_toList, toList_sanitize, length_flatMap_entity, String.length_toList]
  rfl

/-- Every character of a text has a byte at least. -/
theorem length_le_utf8ByteSize (text : String) : text.length ≤ text.utf8ByteSize := by
  rw [← String.ofList_toList (s := text), String.length_ofList, String.utf8ByteSize_ofList]
  induction text.toList with
  | nil => exact Nat.le_refl _
  | cons c cs ih =>
    have byte := c.utf8Size_pos
    simp only [List.length_cons, String.utf8Len_cons]
    omega

/-- The gate judges a length as if it always counted characters. -/
theorem checkLength_eq (text : String) :
    checkLength text = if text.length ≤ lengthLimit then .ok () else .error ⟨text.length⟩ := by
  have bytes := length_le_utf8ByteSize text
  unfold checkLength
  split
  · next few => rw [if_pos (Nat.le_trans bytes few)]
  · split
    · next long => rw [if_neg (Nat.not_le.2 long)]
    · next short => rw [if_pos (Nat.not_lt.1 short)]

/-- A text passes the gate if it is not too long once it is sanitized; the refusal tells that length. -/
theorem pass_eq (raw : String) :
    pass raw =
      if sanitizedLength raw ≤ lengthLimit then .ok ⟨sanitize raw⟩ else .error ⟨sanitizedLength raw⟩ := by
  simp only [pass, checkLength_eq, length_sanitize]
  split <;> rfl

/-- Which way a judgement goes by a limit, each way by a condition of its own. -/
theorem judged_iff {α ε : Type} {passed : α} {refusal : ε} {size limit : Nat} {judgement : Except ε α}
    (judged : judgement = if size ≤ limit then .ok passed else .error refusal) :
    (judgement = .ok passed ↔ size ≤ limit) ∧ (judgement = .error refusal ↔ limit < size) := by
  rw [judged]
  by_cases fits : size ≤ limit
  · simp [fits]
  · simp [fits, Nat.lt_of_not_le fits]

/-- **The gate lets a text through exactly if it fits once it is sanitized.** Each bracket counts for four
characters then, and every other character for one. A text that fits is held as it is sanitized; one that does not
is refused with the length that it would have. A text's own length is judged as if its characters were always
counted, however many bytes they take. -/
theorem admitted_iff_fits (text : String) :
    let length := text.length + 3 * (text.toList.count '<' + text.toList.count '>')
    (sanitize text).length = length ∧
      (pass text = .ok ⟨sanitize text⟩ ↔ length ≤ 10000) ∧
      (pass text = .error ⟨length⟩ ↔ 10000 < length) ∧
      (checkLength text = .ok () ↔ text.length ≤ 10000) ∧
      (checkLength text = .error ⟨text.length⟩ ↔ 10000 < text.length) := by
  obtain ⟨admitted, refused⟩ := judged_iff (pass_eq text)
  obtain ⟨short, long⟩ := judged_iff (checkLength_eq text)
  exact ⟨length_sanitize text, admitted, refused, short, long⟩

/-- What a client is told whose code is too long. -/
def tooLongMessage : String := "validation error: Code length exceeds 10,000 characters"

theorem message_tooLong (refusal : TooLong) : (Failure.tooLong refusal).message = tooLongMessage := rfl

end CodeGate.Gate
