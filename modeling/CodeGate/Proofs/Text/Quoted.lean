import CodeGate.Text.Hex
import CodeGate.Text.Quoted
import Mathlib.Data.Bool.AllAny
import Mathlib.Data.List.Basic

/-!
# Quoted text can be read back

Between the quotes a character stands for itself, or a backslash leads in a letter or a code point. No character that
stands for itself is a backslash or a control character, so quoted text holds no control character, and each character
can be read back from its front. That makes quoting injective.
-/

namespace CodeGate.Text

/-! ## Control characters -/

/-- A text without control characters. -/
def ControlFree (s : String) : Prop := ∀ c ∈ s.toList, isControl c = false

instance (s : String) : Decidable (ControlFree s) :=
  decidable_of_iff (s.toList.all fun c => !isControl c) (by simp [ControlFree])

theorem ControlFree.append {s t : String} (hs : ControlFree s) (ht : ControlFree t) : ControlFree (s ++ t) := by
  unfold ControlFree
  rw [String.toList_append]
  exact List.forall_mem_append.2 ⟨hs, ht⟩

theorem controlFree_join {parts : List String} (h : ∀ s ∈ parts, ControlFree s) :
    ControlFree (String.join parts) := by
  intro c hc
  rw [String.toList_join] at hc
  obtain ⟨s, hs, inside⟩ := List.mem_flatMap.1 hc
  exact h s hs c inside

theorem isControl_of_isDigit {c : Char} (h : c.isDigit = true) : isControl c = false := by
  have low : 48 ≤ c.toNat := by
    simpa using (Char.isDigit_iff_toNat.1 h).1
  have high : c.toNat ≤ 57 := by
    simpa using (Char.isDigit_iff_toNat.1 h).2
  simp [isControl]
  omega

theorem controlFree_toString (n : Nat) : ControlFree (toString n) := by
  intro c hc
  rw [Nat.toString_eq_ofList_toDigits, String.toList_ofList] at hc
  exact isControl_of_isDigit (Nat.isDigit_of_mem_toDigits (by decide) (by decide) hc)

/-! ## Code points -/

theorem hexValue?_digitChar : ∀ d < 16, hexValue? (Nat.digitChar d) = some d := by decide

theorem exists_of_mem_hexDigits {n : Nat} {c : Char} (h : c ∈ hexDigits n) : ∃ d < 16, c = Nat.digitChar d := by
  induction n using Nat.strongRecOn with
  | ind n ih =>
    rw [hexDigits, Nat.toDigits_eq_if (by decide)] at h
    split at h
    · next small => exact ⟨n, small, List.mem_singleton.1 h⟩
    · next large =>
      rcases List.mem_append.1 h with front | last
      · exact ih (n / 16) (by omega) front
      · exact ⟨n % 16, Nat.mod_lt n (by decide), List.mem_singleton.1 last⟩

theorem hexNumber_hexDigits (n : Nat) : hexNumber (hexDigits n) = n := by
  induction n using Nat.strongRecOn with
  | ind n ih =>
    rw [hexDigits, Nat.toDigits_eq_if (by decide)]
    split
    · next small => simp [hexNumber, hexValue?_digitChar n small]
    · next large =>
      have front : hexNumber (Nat.toDigits 16 (n / 16)) = n / 16 := ih (n / 16) (by omega)
      rw [hexNumber] at front ⊢
      rw [List.foldl_append, front, List.foldl_cons, List.foldl_nil,
        hexValue?_digitChar (n % 16) (Nat.mod_lt n (by decide)), Option.getD_some]
      omega

/-! ## Characters between quotes -/

/-- The characters that a letter stands for behind a backslash. -/
def lettered : List (Char × Char) :=
  [('"', '"'), ('\\', '\\'), ('\n', 'n'), ('\r', 'r'), ('\t', 't'), ('\x00', '0')]

/-- What may stand for a character between quotes. -/
inductive Quotes (c : Char) : List Char → Prop where
  | letter {l : Char} (named : (c, l) ∈ lettered) : Quotes c ['\\', l]
  | code : Quotes c ('\\' :: 'u' :: '\x7b' :: (hexDigits c.toNat ++ ['\x7d']))
  | itself (bare : c ≠ '\\') (shown : isControl c = false) : Quotes c [c]

theorem quotes_quotedChar (c : Char) : Quotes c (quotedChar c) := by
  unfold quotedChar
  split
  · next quote => exact .letter (by rw [quote]; decide)
  split
  · next backslash => exact .letter (by rw [backslash]; decide)
  split
  · next feed => exact .letter (by rw [feed]; decide)
  split
  · next carriage => exact .letter (by rw [carriage]; decide)
  split
  · next tab => exact .letter (by rw [tab]; decide)
  split
  · next zero => exact .letter (by rw [zero]; decide)
  split
  · exact .code
  · next bare _ _ _ _ shown =>
    rw [Bool.or_eq_true, not_or, Bool.not_eq_true] at shown
    exact .itself bare shown.1

theorem isControl_of_mem_quotedChar {c x : Char} (h : x ∈ quotedChar c) : isControl x = false := by
  have quotes := quotes_quotedChar c
  generalize quotedChar c = written at quotes h
  cases quotes with
  | @letter l named =>
    have shown : ∀ pair ∈ lettered, isControl pair.2 = false := List.all_iff_forall_prop.1 (by decide)
    obtain rfl | letter := List.mem_cons.1 h
    · decide
    · rw [List.mem_singleton.1 letter]
      exact shown (c, l) named
  | code =>
    have digits : ∀ d < 16, isControl (Nat.digitChar d) = false := by decide
    simp only [List.mem_cons, List.mem_append, List.not_mem_nil, or_false] at h
    obtain rfl | rfl | rfl | digit | rfl := h
    case inr.inr.inr.inl =>
      obtain ⟨d, small, rfl⟩ := exists_of_mem_hexDigits digit
      exact digits d small
    all_goals decide
  | itself bare shown => rwa [List.mem_singleton.1 h]

/-- Quoted text holds no control characters. -/
theorem controlFree_quoted (s : String) : ControlFree (quoted s) := by
  intro c hc
  rw [quoted, String.toList_ofList, List.mem_append, List.mem_append] at hc
  obtain (front | inside) | back := hc
  · rw [List.mem_singleton.1 front]; decide
  · obtain ⟨d, -, hd⟩ := List.mem_flatMap.1 inside
    exact isControl_of_mem_quotedChar hd
  · rw [List.mem_singleton.1 back]; decide

/-! ## Reading back -/

/-- The character that stands first between quotes, and what stands behind it. -/
def readBack? : List Char → Option (Char × List Char)
  | '\\' :: 'u' :: '\x7b' :: cs =>
    some (Char.ofNat (hexNumber (cs.takeWhile (· ≠ '\x7d'))), (cs.dropWhile (· ≠ '\x7d')).tail)
  | '\\' :: l :: cs => (lettered.find? (·.2 = l)).map fun pair => (pair.1, cs)
  | c :: cs => some (c, cs)
  | [] => none

/-- What stands for a character is read back as that character, whatever stands behind. -/
theorem readBack?_quotedChar (c : Char) (cs : List Char) : readBack? (quotedChar c ++ cs) = some (c, cs) := by
  have quotes := quotes_quotedChar c
  generalize quotedChar c = written at quotes
  cases quotes with
  | @letter l named =>
    have read : ∀ pair ∈ lettered, readBack? ('\\' :: pair.2 :: cs) = some (pair.1, cs) := by
      unfold lettered
      simp only [List.forall_mem_cons]
      exact ⟨rfl, rfl, rfl, rfl, rfl, rfl, nofun⟩
    exact read (c, l) named
  | code =>
    have inside : ∀ x ∈ hexDigits c.toNat, decide (x ≠ '\x7d') = true := by
      intro x hx
      obtain ⟨d, small, rfl⟩ := exists_of_mem_hexDigits hx
      have noBrace : ∀ d < 16, Nat.digitChar d ≠ '\x7d' := by decide
      exact decide_eq_true (noBrace d small)
    simp only [List.cons_append, List.append_assoc, readBack?,
      List.takeWhile_append_of_pos inside, List.dropWhile_append_of_pos inside]
    simp [hexNumber_hexDigits]
  | itself bare shown =>
    rw [List.singleton_append]
    unfold readBack?
    split
    · next head => exact absurd (List.cons.inj head).1 bare
    · next head => exact absurd (List.cons.inj head).1 bare
    · next head => rw [(List.cons.inj head).1, (List.cons.inj head).2]
    · next head => cases head

theorem flatMap_quotedChar_inj {cs ds : List Char} (h : cs.flatMap quotedChar = ds.flatMap quotedChar) : cs = ds := by
  induction cs generalizing ds with
  | nil =>
    cases ds with
    | nil => rfl
    | cons d ds =>
      have read := readBack?_quotedChar d (ds.flatMap quotedChar)
      rw [← List.flatMap_cons, ← h] at read
      cases read
  | cons c cs ih =>
    have read := readBack?_quotedChar c (cs.flatMap quotedChar)
    rw [← List.flatMap_cons, h] at read
    cases ds with
    | nil => cases read
    | cons d ds =>
      rw [List.flatMap_cons, readBack?_quotedChar, Option.some.injEq, Prod.mk.injEq] at read
      obtain ⟨rfl, behind⟩ := read
      rw [ih behind.symm]

/-- Different texts are quoted differently. -/
theorem quoted_inj {s t : String} : quoted s = quoted t ↔ s = t := by
  refine ⟨fun h => ?_, congrArg quoted⟩
  have inside := String.ofList_inj.1 h
  rw [List.append_left_inj, List.append_right_inj] at inside
  exact String.toList_inj.1 (flatMap_quotedChar_inj inside)

end CodeGate.Text
