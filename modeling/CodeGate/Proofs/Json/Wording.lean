import CodeGate.Json.Reader
import CodeGate.Proofs.Text.Quoted
import Mathlib.Data.Nat.Init

/-!
# What is told of a text that is not JSON

A reader of any value fails only over how a text is spelled; nothing else is asked of it. So what it tells of a fault
is one of a few fixed phrases with two numbers behind it, and nothing of the text itself. Each reader is followed
through its ways to fail, and the larger ones fail where a smaller one does or over spelling of their own.
-/

namespace CodeGate.Json

open CodeGate.Text

variable {α β : Type} {bound : Nat} {r : Except Fault α} {f : Fault}

/-- A fault that is not about the kind or the shape of a value. -/
def Fault.OfSpelling (f : Fault) : Prop := f.cause.isMismatch = false

/-- A result, or a fault of spelling. -/
inductive FailsOverSpelling : Except Fault α → Prop where
  | ok {a : α} : FailsOverSpelling (.ok a)
  | error {f : Fault} (spelling : f.OfSpelling) : FailsOverSpelling (.error f)

theorem FailsOverSpelling.fault (h : FailsOverSpelling r) (failed : r = .error f) : f.OfSpelling := by
  rw [failed] at h
  cases h with
  | error spelling => exact spelling

/-- Where a fault arose does not change what it is about. -/
theorem Fault.OfSpelling.within (h : f.OfSpelling) (step : Step) : (f.within step).OfSpelling := h

theorem FailsOverSpelling.map (h : FailsOverSpelling r) (g : α → β) : FailsOverSpelling (r.map g) := by
  cases h with
  | ok => exact .ok
  | error spelling => exact .error spelling

/-! ## Tokens -/

theorem spelling_word (letters : List Char) (s : List Glyph) (h : s.length < bound) :
    FailsOverSpelling (word letters s h) := by
  fun_induction word letters s h with
  | case1 => exact .ok
  | case2 => exact .error rfl
  | case3 _ _ _ _ ih => exact ih
  | case4 => exact .error rfl

theorem spelling_floatOf (negative : Bool) (sig : Significand) (rest : List Glyph) (h : rest.length < bound) :
    FailsOverSpelling (floatOf negative sig rest h) := by
  unfold floatOf
  split
  · exact .error rfl
  · exact .ok

theorem spelling_exponentPart (negative : Bool) (sig : Significand) (s : List Glyph) (h : s.length < bound) :
    FailsOverSpelling (exponentPart negative sig s h) := by
  unfold exponentPart
  split
  · exact .error rfl
  split
  · exact .error rfl
  dsimp only
  split
  · split
    · exact .error rfl
    · exact .ok
  · exact spelling_floatOf ..

theorem spelling_numberTail (negative : Bool) (sig : Significand) (s : List Glyph) (h : s.length < bound) :
    FailsOverSpelling (numberTail negative sig s h) := by
  unfold numberTail
  split
  · split
    · split <;> exact .error rfl
    · dsimp only
      split
      · exact spelling_exponentPart ..
      · exact spelling_exponentPart ..
      · exact spelling_floatOf ..
  · exact spelling_exponentPart ..
  · exact spelling_exponentPart ..
  · split
    · exact spelling_floatOf ..
    split
    · exact .ok
    · split <;> exact .ok

theorem spelling_unsignedNumber (negative : Bool) (s : List Glyph) :
    FailsOverSpelling (unsignedNumber negative s) := by
  unfold unsignedNumber
  split
  · exact .error rfl
  split
  · exact .error rfl
  · split
    · exact spelling_numberTail ..
    split
    · exact .error rfl
    · exact spelling_numberTail ..
  · exact spelling_numberTail ..

theorem ofSpelling_hexFault (s : List Glyph) : (hexFault s).OfSpelling := by
  unfold hexFault
  split <;> rfl

theorem spelling_hexEscape (s : List Glyph) : FailsOverSpelling (hexEscape s) := by
  unfold hexEscape
  split
  · split
    · exact .ok
    · exact .error (ofSpelling_hexFault _)
  · exact .error (ofSpelling_hexFault _)

theorem spelling_unicodeEscape (s : List Glyph) : FailsOverSpelling (unicodeEscape s) := by
  unfold unicodeEscape
  split
  · next failed => exact .error ((spelling_hexEscape _).fault failed)
  split
  · exact .error rfl
  split
  · exact .ok
  -- the second half of a pair
  split
  · exact .error rfl
  · split
    · exact .error rfl
    · split
      · next failed => exact .error ((spelling_hexEscape _).fault failed)
      · split
        · exact .ok
        · exact .error rfl
    · exact .error rfl
  · exact .error rfl

theorem spelling_stringBody (done : List Char) (sound : Bool) (s : List Glyph) (h : s.length ≤ bound) :
    FailsOverSpelling (stringBody done sound s h) := by
  fun_induction stringBody done sound s h with
  | case3 => exact .ok
  | case6 =>
    next failed _ _ _ => exact .error ((spelling_unicodeEscape _).fault failed)
  -- a stray byte, an escape by number or by letter, and a character that stands for itself
  | case2 =>
    next ih => exact ih
  | case7 =>
    next ih => exact ih
  | case8 =>
    next ih => exact ih
  | case12 =>
    next ih => exact ih
  | _ => exact .error rfl

theorem spelling_scalar (g : Glyph) (r : List Glyph) : FailsOverSpelling (scalar g r) := by
  unfold scalar
  split
  · exact (spelling_word ..).map _
  split
  · exact (spelling_word ..).map _
  split
  · exact (spelling_word ..).map _
  split
  · exact (spelling_stringBody ..).map _
  split
  · exact (spelling_unsignedNumber ..).map _
  split
  · exact (spelling_unsignedNumber ..).map _
  · exact .error rfl

/-! ## Rows and values -/

theorem spelling_nextItem (first : Bool) (s : List Glyph) : FailsOverSpelling (nextItem first s) := by
  unfold nextItem
  split
  · exact .error rfl
  dsimp only
  split
  · exact .ok
  split
  · exact .ok
  split
  · split
    · exact .error rfl
    · split
      · exact .error rfl
      · exact .ok
  · exact .error rfl

theorem spelling_nextKey (first : Bool) (s : List Glyph) : FailsOverSpelling (nextKey first s) := by
  unfold nextKey
  extract_lets key
  have spelling : ∀ g r fits, FailsOverSpelling (key g r fits) := by
    intro g r fits
    unfold key
    split
    · exact .ok
    · split <;> exact .error rfl
  split
  · exact .error rfl
  next g r found =>
  dsimp only
  split
  · exact .ok
  split
  · exact spelling g r (cons_le_of_skipSpace found)
  split
  · split
    · exact .error rfl
    · next behind => exact spelling _ _ (cons_le_of_skipSpace_cons found behind)
  · exact .error rfl

theorem spelling_colon (s : List Glyph) : FailsOverSpelling (colon s) := by
  unfold colon
  split
  · exact .error rfl
  dsimp only
  split
  · exact .ok
  · exact .error rfl

theorem spelling_items {item : Reader α} (spelling : ∀ s, FailsOverSpelling (item s)) (done : List α) (s : List Glyph)
    (h : s.length ≤ bound) : FailsOverSpelling (items item done s h) := by
  fun_induction items item done s h with
  | case1 =>
    next failed => exact .error ((spelling_nextItem _ _).fault failed)
  | case2 => exact .ok
  | case3 =>
    next failed => exact .error (((spelling _).fault failed).within _)
  | case4 =>
    next ih => exact ih

theorem spelling_keyAndColon (s : List Glyph) : FailsOverSpelling (keyAndColon s) := by
  unfold keyAndColon
  split
  · next failed => exact .error (((spelling_stringBody ..).fault failed).within _)
  split
  · next failed => exact .error ((spelling_colon _).fault failed)
  · exact .ok

theorem spelling_entries {value : Reader α} (spelling : ∀ s, FailsOverSpelling (value s))
    (done : List (String × α)) (s : List Glyph) (h : s.length ≤ bound) :
    FailsOverSpelling (entries value done s h) := by
  fun_induction entries value done s h with
  | case1 =>
    next failed => exact .error (((spelling_nextKey _ _).fault failed).within _)
  | case2 => exact .ok
  | case3 =>
    next failed => exact .error ((spelling_keyAndColon _).fault failed)
  | case4 =>
    next failed => exact .error (((spelling _).fault failed).within _)
  | case5 =>
    next ih => exact ih

theorem spelling_value (depth : Nat) (s : List Glyph) : FailsOverSpelling (value depth s) := by
  -- what stands in a list or an object may be one level less deep
  induction depth generalizing s with
  | zero =>
    unfold value
    split
    · exact .error rfl
    dsimp only
    split
    · exact .error rfl
    split
    · exact .error rfl
    · exact (spelling_scalar ..).map _
  | succ depth ih =>
    unfold value
    split
    · exact .error rfl
    dsimp only
    split
    · exact (spelling_items ih ..).map _
    split
    · exact (spelling_entries ih ..).map _
    · exact (spelling_scalar ..).map _

theorem spelling_finish (s : List Glyph) : FailsOverSpelling (finish s) := by
  unfold finish
  split
  · exact .ok
  · exact .error rfl

theorem spelling_readGlyphs (text : List Glyph) : FailsOverSpelling (readGlyphs text) := by
  unfold readGlyphs
  cases found : value maxDepth text with
  | error f => exact .error ((spelling_value _ _).fault found)
  | ok p =>
    simp only [bind, Except.bind]
    cases finished : finish p.rest with
    | error f => exact .error ((spelling_finish _).fault finished)
    | ok => exact .ok

/-! ## Messages -/

theorem controlFree_words {c : Cause} (h : c.isMismatch = false) : ControlFree c.words := by
  cases c with
  | wrongType found expected => cases h
  | wrongValue found expected => cases h
  | wrongLength count expected => cases h
  | missingField name => cases h
  | duplicateField name => cases h
  | _ => decide +kernel

theorem Fault.OfSpelling.controlFree_message (h : f.OfSpelling) (text : List Glyph) :
    ControlFree (f.message text) := by
  have line : ControlFree " at line " := by decide
  have column : ControlFree " column " := by decide
  have behindLine := ((controlFree_words h).append line).append (controlFree_toString (f.position text).line)
  exact (behindLine.append column).append (controlFree_toString _)

/-- What is told of a text that cannot be read holds no control character, whatever the text holds. -/
theorem controlFree_of_read {text message : String} (h : read text = .error message) : ControlFree message := by
  unfold read at h
  dsimp only at h
  split at h
  · cases h
  · next failed =>
    rw [← Except.error.inj h]
    exact ((spelling_readGlyphs _).fault failed).controlFree_message _

end CodeGate.Json
