import CodeGate.Url.Percent

/-!
# Percent-encoding reads back

Decoding gives back the bytes of what was encoded, as long as the percent sign itself is not kept. What is
written in place of a character are percent signs and upper-case hexadecimal digits, so a set that keeps
these finds nothing more to encode.
-/

namespace CodeGate.Url

open CodeGate.Text

/-! ## The digits of a byte -/

/-- The characters that percent-encoding writes: the percent sign and the upper-case digits. -/
def percentMarks : List Char := "%0123456789ABCDEF".toList

theorem hexValue?_upperHexDigit : ∀ n < 16, hexValue? (upperHexDigit n) = some n := by decide

theorem upperHexDigit_mem : ∀ n < 16, upperHexDigit n ∈ percentMarks := by decide

theorem high_lt (b : UInt8) : b.toNat / 16 < 16 := by have := b.toNat_lt; omega

theorem low_lt (b : UInt8) : b.toNat % 16 < 16 := Nat.mod_lt _ (by decide)

theorem mem_percentMarks_of_mem_percentChar {c x : Char} (h : x ∈ percentChar c) : x ∈ percentMarks := by
  obtain ⟨b, -, hx⟩ := List.mem_flatMap.1 h
  simp only [percentByte, List.mem_cons, List.not_mem_nil, or_false] at hx
  rcases hx with rfl | rfl | rfl
  · decide
  · exact upperHexDigit_mem _ (high_lt b)
  · exact upperHexDigit_mem _ (low_lt b)

/-! ## Decoding what was encoded -/

theorem percentDecode_percentByte (b : UInt8) (rest : List Char) :
    percentDecode (percentByte b ++ rest) = b :: percentDecode rest := by
  have whole : b.toNat / 16 * 16 + b.toNat % 16 = b.toNat := by omega
  simp only [percentByte, List.cons_append, List.nil_append, percentDecode,
    hexValue?_upperHexDigit _ (high_lt b), hexValue?_upperHexDigit _ (low_lt b), whole]
  simp

theorem percentDecode_percentBytes (bs : List UInt8) (rest : List Char) :
    percentDecode (bs.flatMap percentByte ++ rest) = bs ++ percentDecode rest := by
  induction bs with
  | nil => rfl
  | cons b bs ih => rw [List.flatMap_cons, List.append_assoc, percentDecode_percentByte, ih]; rfl

theorem percentDecode_cons {c : Char} (h : c ≠ '%') (rest : List Char) :
    percentDecode (c :: rest) = String.utf8EncodeChar c ++ percentDecode rest := by
  rw [percentDecode.eq_def]
  split
  · next e => cases e
  · next e => exact absurd (List.cons.inj e).1 h
  · next e => obtain ⟨rfl, rfl⟩ := List.cons.inj e; rfl

/-- A text that is encoded decodes to the bytes of its UTF-8 form. -/
theorem percentDecode_percentEncode {kept : Char → Bool} (h : kept '%' = false) (cs : List Char) :
    percentDecode (percentEncode kept cs) = cs.flatMap String.utf8EncodeChar := by
  induction cs with
  | nil => rfl
  | cons c cs ih =>
    simp only [percentEncode, List.flatMap_cons] at ih ⊢
    split
    · next keeps =>
      have notPercent : c ≠ '%' := fun e => by simp [e, h] at keeps
      rw [List.singleton_append, percentDecode_cons notPercent, ih]
    · rw [percentChar, percentDecode_percentBytes, ih]

/-! ## What an encoded text holds -/

theorem mem_percentEncode {kept : Char → Bool} {cs : List Char} {x : Char} (h : x ∈ percentEncode kept cs) :
    (kept x = true ∧ x ∈ cs) ∨ x ∈ percentMarks := by
  obtain ⟨c, hc, hx⟩ := List.mem_flatMap.1 h
  split at hx
  · next keeps =>
    obtain rfl := List.mem_singleton.1 hx
    exact .inl ⟨keeps, hc⟩
  · exact .inr (mem_percentMarks_of_mem_percentChar hx)

/-- A text of kept characters stays as it is. -/
theorem percentEncode_of_kept {kept : Char → Bool} {cs : List Char} (h : ∀ c ∈ cs, kept c = true) :
    percentEncode kept cs = cs := by
  induction cs with
  | nil => rfl
  | cons c cs ih =>
    simp only [percentEncode, List.flatMap_cons, h c List.mem_cons_self, if_true] at ih ⊢
    rw [ih fun x hx => h x (List.mem_cons_of_mem _ hx)]
    rfl

theorem percentEncode_ne_nil {kept : Char → Bool} {cs : List Char} (h : cs ≠ []) :
    percentEncode kept cs ≠ [] := by
  obtain ⟨c, cs, rfl⟩ := List.exists_cons_of_ne_nil h
  intro empty
  have first := List.flatMap_eq_nil_iff.1 empty c List.mem_cons_self
  split at first
  · cases first
  · obtain ⟨b, bs, e⟩ := List.exists_cons_of_ne_nil (String.utf8EncodeChar_ne_nil (c := c))
    simp [percentChar, e, percentByte] at first

end CodeGate.Url
