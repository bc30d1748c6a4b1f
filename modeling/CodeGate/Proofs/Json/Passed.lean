import CodeGate.Json.Skim
import CodeGate.Proofs.Json.Documents

/-!
# What is passed over

A member that nobody asked for is passed over by its form alone, so the form of a value is given here as a
grammar of its own: numbers of any size, strings with any escapes, and lists and objects of any depth. Every text
of this form is passed over, up to what stands behind it, and so is whatever a reader of values takes. Both
come down to one relation, which says that passing over a value goes on with what is left of the frames
around it.
-/

namespace CodeGate.Json

open CodeGate.Text

/-! ## The form of a value -/

/-- A string between its quotes: any four hexadecimal digits make an escape. -/
inductive StringFormed : List Char → Prop where
  | nil : StringFormed []
  | plain {c : Char} {s : List Char} (ordinary : Ordinary c) (rest : StringFormed s) : StringFormed (c :: s)
  | letter {l c : Char} {s : List Char} (stands : letterEscape? l = some c) (rest : StringFormed s) :
      StringFormed ('\\' :: l :: s)
  | number {h s : List Char} {n : Nat} (digits : Hex h n) (rest : StringFormed s) :
      StringFormed ('\\' :: 'u' :: (h ++ s))

/-- A row of digits, at least one. -/
structure Digits (s : List Char) : Prop where
  some : s ≠ []
  each : ∀ c ∈ s, c.isDigit = true

/-- The digits of a number before its point: a zero stands alone. -/
inductive WholeFormed : List Char → Prop where
  | zero : WholeFormed ['0']
  | digits {c : Char} {s : List Char} (first : c.isDigit = true) (notZero : c ≠ '0')
      (rest : ∀ x ∈ s, x.isDigit = true) : WholeFormed (c :: s)

/-- The point of a number and the digits behind it, or neither. -/
inductive FractionFormed : List Char → Prop where
  | absent : FractionFormed []
  | given {s : List Char} (digits : Digits s) : FractionFormed ('.' :: s)

/-- The exponent of a number, or none. -/
inductive ExponentFormed : List Char → Prop where
  | absent : ExponentFormed []
  | given {e : Char} {sign s : List Char} (letter : e = 'e' ∨ e = 'E') (signed : sign ∈ [[], ['+'], ['-']])
      (digits : Digits s) : ExponentFormed (e :: (sign ++ s))

/-- A number without its sign. -/
inductive NumberFormed : List Char → Prop where
  | mk {w f e : List Char} (whole : WholeFormed w) (fraction : FractionFormed f) (exponent : ExponentFormed e) :
      NumberFormed (w ++ (f ++ e))

/-- A value that is no list and no object. -/
inductive ScalarFormed : List Char → Prop where
  | null : ScalarFormed "null".toList
  | true : ScalarFormed "true".toList
  | false : ScalarFormed "false".toList
  | string {s : List Char} (formed : StringFormed s) : ScalarFormed ('"' :: (s ++ ['"']))
  | positive {s : List Char} (formed : NumberFormed s) : ScalarFormed s
  | negative {s : List Char} (formed : NumberFormed s) : ScalarFormed ('-' :: s)

/-- A member: a key, a colon and a value. -/
inductive MemberFormed (Inner : List Char → Prop) : List Char → Unit → Prop where
  | mk {k b b' s : List Char} (key : StringFormed k) (blank : Blank b) (blank' : Blank b') (value : Inner s) :
      MemberFormed Inner ('"' :: (k ++ '"' :: (b ++ ':' :: (b' ++ s)))) ()

/-- A value in which the given ones may stand. -/
inductive LayerFormed (Inner : List Char → Prop) : List Char → Prop where
  | scalar {s : List Char} (formed : ScalarFormed s) : LayerFormed Inner s
  | list {s : List Char} {n : List Unit} (row : Row (fun s _ => Inner s) true s n) :
      LayerFormed Inner ('[' :: (s ++ [']']))
  | object {s : List Char} {n : List Unit} (row : Row (MemberFormed Inner) true s n) :
      LayerFormed Inner ('\x7b' :: (s ++ ['\x7d']))

/-- A value in which so many lists and objects may stand one in another, by its form alone. -/
def Formed : Nat → List Char → Prop
  | 0 => ScalarFormed
  | depth + 1 => LayerFormed (Formed depth)

theorem Formed.cases {a : List Char} {depth : Nat} (h : Formed depth a) :
    ScalarFormed a ∨ ∃ d, depth = d + 1 ∧ LayerFormed (Formed d) a := by
  cases depth with
  | zero => exact .inl h
  | succ d => exact .inr ⟨d, rfl, h⟩

theorem WholeFormed.starts {a : List Char} (h : WholeFormed a) : ∃ c a', a = c :: a' ∧ c.isDigit = true := by
  cases h with
  | zero => exact ⟨'0', [], rfl, by decide⟩
  | digits first => exact ⟨_, _, rfl, first⟩

theorem NumberFormed.starts {a : List Char} (h : NumberFormed a) : ∃ c a', a = c :: a' ∧ c.isDigit = true := by
  obtain ⟨whole, -, -⟩ := h
  obtain ⟨c, a', rfl, isDigit⟩ := whole.starts
  exact ⟨c, _, rfl, isDigit⟩

theorem ScalarFormed.starts {a : List Char} (h : ScalarFormed a) : ∃ c a', a = c :: a' ∧ StartsScalar c := by
  cases h with
  | null => exact ⟨'n', _, rfl, startsScalar_of_mem (by simp)⟩
  | true => exact ⟨'t', _, rfl, startsScalar_of_mem (by simp)⟩
  | false => exact ⟨'f', _, rfl, startsScalar_of_mem (by simp)⟩
  | string formed => exact ⟨'"', _, rfl, startsScalar_of_mem (by simp)⟩
  | positive formed =>
    obtain ⟨c, a', rfl, isDigit⟩ := formed.starts
    exact ⟨c, a', rfl, startsScalar_of_isDigit isDigit⟩
  | negative formed => exact ⟨'-', _, rfl, startsScalar_of_mem (by simp)⟩

theorem Formed.starts {a : List Char} {depth : Nat} (h : Formed depth a) : ∃ c a', a = c :: a' ∧ Starts c := by
  rcases h.cases with scalar | ⟨d, rfl, layer⟩
  · obtain ⟨c, a', rfl, starts⟩ := scalar.starts
    exact ⟨c, a', rfl, starts.toStarts⟩
  · cases layer with
    | scalar scalar =>
      obtain ⟨c, a', rfl, starts⟩ := scalar.starts
      exact ⟨c, a', rfl, starts.toStarts⟩
    | list row => exact ⟨'[', _, rfl, by decide, by decide⟩
    | object row => exact ⟨'\x7b', _, rfl, by decide, by decide⟩

/-! ## Numbers -/

variable {g r rest x y : List Glyph} {bound : Nat}

theorem spanDigits_append {ds : List Char} (digits : ∀ c ∈ ds, c.isDigit = true) (ends : NoDigit rest) :
    ∃ ns, spanDigits (ds.map .char ++ rest) = (ns, rest) ∧ ns.length = ds.length := by
  induction ds with
  | nil => exact ⟨[], spanDigits_of_noDigit ends, rfl⟩
  | cons c ds ih =>
    obtain ⟨here, later⟩ := List.forall_mem_cons.1 digits
    obtain ⟨ns, spanned, same⟩ := ih later
    have digit : digit? (.char c) = some (c.toNat - 48) := by simp [digit?, here]
    refine ⟨(c.toNat - 48) :: ns, ?_, congrArg (· + 1) same⟩
    rw [List.map_cons, List.cons_append, spanDigits_cons digit, spanned]

theorem Digits.spanDigits {ds : List Char} (digits : Digits ds) (ends : NoDigit rest) :
    ∃ n ns, Json.spanDigits (ds.map .char ++ rest) = (n :: ns, rest) := by
  obtain ⟨ns, spanned, same⟩ := spanDigits_append digits.each ends
  cases ns with
  | nil => exact absurd (List.length_eq_zero_iff.1 same.symm) digits.some
  | cons n ns => exact ⟨n, ns, spanned⟩

/-- A sign or none in front of digits is taken for what it is. -/
theorem exponentSign_signed {sign ds : List Char} (signed : sign ∈ [[], ['+'], ['-']]) (digits : Digits ds) :
    (exponentSign ((sign ++ ds).map .char ++ rest)).2 = ds.map .char ++ rest := by
  obtain ⟨c, ds, rfl⟩ := List.exists_cons_of_ne_nil digits.some
  have isDigit : c.isDigit = true := digits.each c List.mem_cons_self
  simp only [List.mem_cons, List.not_mem_nil, or_false] at signed
  rcases signed with rfl | rfl | rfl
  · simp only [List.nil_append, List.map_cons, List.cons_append]
    unfold exponentSign
    split
    · next e =>
      cases e
      cases isDigit
    · next e =>
      cases e
      cases isDigit
    · rfl
  · rfl
  · rfl

theorem yields_skimExponent {sign ds : List Char} (signed : sign ∈ [[], ['+'], ['-']]) (digits : Digits ds)
    (ends : NoDigit rest) {h : ((sign ++ ds).map Glyph.char ++ rest).length < bound} :
    Yields (skimExponent ((sign ++ ds).map .char ++ rest) h) () rest := by
  obtain ⟨n, ns, spanned⟩ := digits.spanDigits ends
  unfold skimExponent
  split
  · next none =>
    rw [exponentSign_signed signed digits, spanned] at none
    cases none
  · refine yields_ok.2 ⟨rfl, ?_⟩
    rw [exponentSign_signed signed digits, spanned]

theorem skimExponentPart_plain (noSmall : g.head? ≠ some (.char 'e')) (noLarge : g.head? ≠ some (.char 'E'))
    {h : g.length < bound} : skimExponentPart g h = .ok ⟨(), g, h⟩ := by
  cases g with
  | nil => rfl
  | cons x g =>
    refine if_neg ?_
    rintro (rfl | rfl)
    · exact noSmall rfl
    · exact noLarge rfl

theorem yields_skimExponentPart {e : List Char} (formed : ExponentFormed e) (ends : Ends rest)
    {h : (e.map Glyph.char ++ rest).length < bound} :
    Yields (skimExponentPart (e.map .char ++ rest) h) () rest := by
  cases formed with
  | absent =>
    show Yields (skimExponentPart rest h) () rest
    rw [skimExponentPart_plain ends.noSmall ends.noLarge]
    exact yields_ok.2 ⟨rfl, rfl⟩
  | @given e sign ds letter signed digits =>
    have mark : Glyph.char e = Glyph.char 'e' ∨ Glyph.char e = Glyph.char 'E' :=
      letter.imp (congrArg Glyph.char) (congrArg Glyph.char)
    show Yields (skimExponentPart (Glyph.char e :: ((sign ++ ds).map Glyph.char ++ rest)) h) () rest
    rw [skimExponentPart, if_pos mark]
    exact yields_skimExponent signed digits ends.noDigit

theorem skimNumberTail_of_noPoint (noPoint : x.head? ≠ some (Glyph.char '.')) {h : x.length < bound} :
    skimNumberTail x h = skimExponentPart x h := by
  unfold skimNumberTail
  split
  · exact absurd rfl noPoint
  · rfl

/-- What stands behind the digits of a number and its fraction is no digit and no point. -/
theorem ExponentFormed.behind {e : List Char} (formed : ExponentFormed e) (ends : Ends rest) :
    NoDigit (e.map Glyph.char ++ rest) ∧ (e.map Glyph.char ++ rest).head? ≠ some (.char '.') := by
  cases formed with
  | absent => exact ⟨ends.noDigit, ends.noPoint⟩
  | given letter =>
    have noDigit : ∀ c ∈ ['e', 'E'], digit? (.char c) = none ∧ c ≠ '.' := List.all_iff_forall_prop.1 (by decide)
    obtain ⟨noDigit, noPoint⟩ := noDigit _ (by simpa using letter)
    exact ⟨by simpa [NoDigit] using noDigit, by simpa using noPoint⟩

theorem FractionFormed.behind {f e : List Char} (fraction : FractionFormed f) (exponent : ExponentFormed e)
    (ends : Ends rest) : NoDigit ((f ++ e).map Glyph.char ++ rest) := by
  cases fraction with
  | absent => exact (exponent.behind ends).1
  | given digits => exact fun g hg => by cases hg; decide

theorem yields_skimNumberTail {f e : List Char} (fraction : FractionFormed f) (exponent : ExponentFormed e)
    (ends : Ends rest) {h : ((f ++ e).map Glyph.char ++ rest).length < bound} :
    Yields (skimNumberTail ((f ++ e).map .char ++ rest) h) () rest := by
  obtain ⟨noDigit, noPoint⟩ := exponent.behind ends
  cases fraction with
  | absent =>
    show Yields (skimNumberTail (e.map .char ++ rest) h) () rest
    rw [skimNumberTail_of_noPoint noPoint]
    exact yields_skimExponentPart exponent ends
  | @given ds digits =>
    obtain ⟨n, ns, spanned⟩ := digits.spanDigits noDigit
    have regroup : (('.' :: ds) ++ e).map Glyph.char ++ rest =
        .char '.' :: (ds.map .char ++ (e.map .char ++ rest)) := by simp
    revert h
    rw [regroup]
    intro h
    rw [skimNumberTail]
    split
    · next none =>
      rw [spanned] at none
      cases none
    · simp only [spanned]
      exact yields_skimExponentPart exponent ends

theorem yields_skimNumber {a : List Char} (formed : NumberFormed a) (ends : Ends rest) :
    Yields (skimNumber (a.map .char ++ rest)) () rest := by
  obtain @⟨w, f, e, whole, fraction, exponent⟩ := formed
  have behind := fraction.behind exponent ends
  have tail : ∀ {bound : Nat} (h : ((f ++ e).map Glyph.char ++ rest).length < bound),
      Yields (skimNumberTail ((f ++ e).map .char ++ rest) h) () rest :=
    fun _ => yields_skimNumberTail fraction exponent ends
  cases whole with
  | zero =>
    have zero : digit? (.char '0') = some 0 := by decide
    show Yields (skimNumber (.char '0' :: ((f ++ e).map .char ++ rest))) () rest
    unfold skimNumber
    simp only [zero, spanDigits_of_noDigit behind]
    exact tail _
  | @digits c ds first notZero each =>
    obtain ⟨d, positive⟩ : ∃ d, c.toNat - 48 = d + 1 := by
      have low : '0'.toNat ≤ c.toNat := UInt32.le_iff_toNat_le.1 (of_decide_eq_true (Bool.and_eq_true_iff.1 first).1)
      have differ : c.toNat ≠ '0'.toNat := fun same => notZero (Char.toNat_inj.1 same)
      exact Nat.exists_eq_succ_of_ne_zero fun zero => differ (Nat.le_antisymm (Nat.sub_eq_zero_iff_le.1 zero) low)
    have digit : digit? (.char c) = some (d + 1) := by simp [digit?, first, positive]
    obtain ⟨ns, spanned, -⟩ := spanDigits_append each behind
    have regroup : ((c :: ds) ++ (f ++ e)).map Glyph.char ++ rest =
        .char c :: (ds.map .char ++ ((f ++ e).map .char ++ rest)) := by simp
    rw [regroup]
    unfold skimNumber
    simp only [digit, spanned]
    exact tail _

/-- The digits of an exponent that were not looked at are passed over with those that were. -/
theorem exponentDigits_spanned (e : Nat) (g : List Glyph) :
    (if (exponentDigits e g).2.1 then (spanDigits (exponentDigits e g).2.2).2 else (exponentDigits e g).2.2) =
      (spanDigits g).2 := by
  induction g generalizing e with
  | nil => rfl
  | cons x g ih =>
    cases digit : digit? x with
    | none => simp [exponentDigits, spanDigits, digit]
    | some d =>
      rw [spanDigits_cons digit]
      by_cases passes : exponentLimit ≤ e * 10 + d
      · simp [exponentDigits, digit, passes]
      · simpa [exponentDigits, digit, passes] using ih (e * 10 + d)

section Taken

variable {negative : Bool} {sig : Significand} {n : Number}

theorem skimExponent_of_exponentPart {h : g.length < bound} (found : Yields (exponentPart negative sig g h) n rest) :
    Yields (skimExponent g h) () rest := by
  obtain ⟨x, r, d, sign, digit, -, rfl⟩ := yields_exponentPart.1 found
  unfold skimExponent
  split
  · next none =>
    rw [sign, spanDigits_cons digit] at none
    cases none
  · refine yields_ok.2 ⟨rfl, ?_⟩
    rw [sign, spanDigits_cons digit, exponentDigits_spanned]

theorem skimExponentPart_of_exponentTail {h : g.length < bound}
    (found : Yields (exponentTail negative sig g h) n rest) : Yields (skimExponentPart g h) () rest := by
  cases g with
  | nil =>
    obtain ⟨-, rfl⟩ := yields_floatOf.1 found
    exact yields_ok.2 ⟨rfl, rfl⟩
  | cons x g =>
    rw [exponentTail] at found
    rw [skimExponentPart]
    split
    · next mark =>
      rw [if_pos mark] at found
      exact skimExponent_of_exponentPart found
    · next noMark =>
      rw [if_neg noMark] at found
      obtain ⟨-, rfl⟩ := yields_floatOf.1 found
      exact yields_ok.2 ⟨rfl, rfl⟩

theorem skimNumberTail_of_numberTail {h : g.length < bound} (found : Yields (numberTail negative sig g h) n rest) :
    Yields (skimNumberTail g h) () rest := by
  by_cases point : g.head? = some (.char '.')
  · obtain ⟨r, rfl⟩ := List.head?_eq_some_iff.1 point
    obtain ⟨digits, shorter, found⟩ := yields_numberTail_point.1 found
    rw [skimNumberTail]
    split
    · next none =>
      rw [none] at digits
      exact absurd rfl digits
    · exact skimExponentPart_of_exponentTail found
  rw [skimNumberTail_of_noPoint point]
  by_cases small : g.head? = some (.char 'e')
  · obtain ⟨r, rfl⟩ := List.head?_eq_some_iff.1 small
    rw [skimExponentPart, if_pos (.inl rfl)]
    exact skimExponent_of_exponentPart found
  by_cases large : g.head? = some (.char 'E')
  · obtain ⟨r, rfl⟩ := List.head?_eq_some_iff.1 large
    rw [skimExponentPart, if_pos (.inr rfl)]
    exact skimExponent_of_exponentPart found
  obtain ⟨-, rfl⟩ := (yields_numberTail_whole point small large).1 found
  rw [skimExponentPart_plain small large]
  exact yields_ok.2 ⟨rfl, rfl⟩

theorem skimNumber_of_unsignedNumber (found : Yields (unsignedNumber negative g) n rest) :
    Yields (skimNumber g) () rest := by
  cases g with
  | nil => exact absurd found not_yields_error
  | cons x r =>
    cases digit : digit? x with
    | none =>
      unfold unsignedNumber at found
      simp only [digit] at found
      exact absurd found not_yields_error
    | some d =>
      cases d with
      | zero =>
        obtain ⟨noDigit, found⟩ := (yields_unsignedNumber_zero digit).1 found
        unfold skimNumber
        simp only [digit, spanDigits_of_noDigit noDigit]
        exact skimNumberTail_of_numberTail found
      | succ d =>
        have found := (yields_unsignedNumber_digit digit (Nat.succ_ne_zero d)).1 found
        unfold skimNumber
        simp only [digit]
        exact skimNumberTail_of_numberTail found

end Taken

/-! ## Strings -/

theorem skimString_ordinary {c : Char} (ordinary : Ordinary c) {fits : (Glyph.char c :: g).length ≤ bound} :
    skimString (.char c :: g) fits = skimString g (length_le_of_cons_le fits) := by
  rw [skimString.eq_def]
  simp only [ordinary.noQuote, ordinary.noEscape, Nat.not_lt.2 ordinary.noControl, if_false]

theorem skimString_letter {l c : Char} (stands : letterEscape? l = some c)
    {fits : (Glyph.char '\\' :: .char l :: g).length ≤ bound} :
    skimString (.char '\\' :: .char l :: g) fits =
      skimString g (length_le_of_cons_le (length_le_of_cons_le fits)) := by
  have some : (letterEscape? l).isSome = true := by rw [stands]; rfl
  rw [skimString.eq_def]
  dsimp only
  rw [if_neg (by decide), if_pos rfl]
  split
  · next e _ => cases e
  · next e _ =>
    cases e
    cases (show letterEscape? 'u' = none by decide).symm.trans stands
  · next e _ =>
    cases e
    rw [if_pos some]
  · next e _ => cases e

theorem skimString_unicode {h : List Char} {n : Nat} (digits : Hex h n) (fits' : g.length ≤ bound)
    {fits : (Glyph.char '\\' :: .char 'u' :: (h.map .char ++ g)).length ≤ bound} :
    skimString (.char '\\' :: .char 'u' :: (h.map .char ++ g)) fits = skimString g fits' := by
  have found : Yields (hexEscape (h.map .char ++ g)) n g := yields_hexEscape.2 ⟨h, digits, rfl⟩
  obtain ⟨p, escape, -, behind⟩ := found
  rw [skimString.eq_def]
  dsimp only
  rw [if_neg (by decide), if_pos rfl]
  simp only [escape, behind]

/-- A string of the form is passed over up to its closing quote. -/
theorem yields_skimString {a : List Char} (formed : StringFormed a) {s : List Glyph}
    {fits : (a.map Glyph.char ++ .char '"' :: s).length ≤ bound} :
    Yields (skimString (a.map .char ++ .char '"' :: s) fits) () s := by
  induction formed with
  | nil =>
    rw [skimString.eq_def]
    exact yields_ok.2 ⟨rfl, rfl⟩
  | plain ordinary _ ih =>
    simp only [List.map_cons, List.cons_append]
    rw [skimString_ordinary ordinary]
    exact ih
  | letter stands _ ih =>
    simp only [List.map_cons, List.cons_append]
    rw [skimString_letter stands]
    exact ih
  | number digits _ ih =>
    simp only [List.map_cons, List.cons_append, List.map_append, List.append_assoc] at fits ⊢
    rw [skimString_unicode digits (by simp only [List.length_cons, List.length_append] at fits ⊢; omega)]
    exact ih

/-- An escape that stands for a character is passed over; one for a surrogate pair is two to those who pass over. -/
theorem skimString_escaped {a : List Char} {c : Char} (escaped : Escaped a c)
    {fits : (Glyph.char '\\' :: (a.map Glyph.char ++ g)).length ≤ bound} {fits' : g.length ≤ bound} :
    skimString (.char '\\' :: (a.map .char ++ g)) fits = skimString g fits' := by
  cases escaped with
  | letter stands => exact skimString_letter stands
  | number digits => exact skimString_unicode digits fits'
  | @pair h h' m n first _ second =>
    have regroup : ('u' :: (h ++ '\\' :: 'u' :: h')).map Glyph.char ++ g =
        .char 'u' :: (h.map .char ++ .char '\\' :: .char 'u' :: (h'.map .char ++ g)) := by simp
    revert fits
    rw [regroup]
    intro fits
    have shorter : (Glyph.char '\\' :: .char 'u' :: (h'.map .char ++ g)).length ≤ bound := by
      simp only [List.length_cons, List.length_append] at fits ⊢
      omega
    exact (skimString_unicode first shorter).trans (skimString_unicode second fits')

/-- What a reader of strings takes is passed over. -/
theorem skimString_of_stringBody {done : List Char} {sound : Bool} {text : String} {bound' : Nat}
    {fits : g.length ≤ bound} {fits' : g.length ≤ bound'} (found : Yields (stringBody done sound g fits) text rest) :
    Yields (skimString g fits') () rest := by
  fun_induction stringBody done sound g fits with
  | case2 =>
    next ih =>
    rw [skimString.eq_def]
    exact ih found
  | case3 =>
    obtain ⟨-, rfl⟩ := yields_ok.1 found
    rw [skimString.eq_def]
    exact yields_ok.2 ⟨rfl, rfl⟩
  | case7 =>
    next p escape _ _ _ ih =>
    obtain ⟨a, escaped, split⟩ := yields_unicodeEscape.1 ⟨p, escape, rfl, rfl⟩
    have whole : Glyph.char 'u' :: _ = ('u' :: a).map .char ++ p.rest := congrArg (Glyph.char 'u' :: ·) split
    have shorter : p.rest.length ≤ bound' := by
      have := p.shorter
      simp only [List.length_cons] at fits'
      omega
    revert fits'
    rw [whole]
    intro fits'
    rw [skimString_escaped escaped]
    exact @ih shorter found
  | case8 =>
    next stands _ _ _ ih =>
    rw [skimString_letter stands]
    exact ih found
  | case12 =>
    next noQuote noEscape noControl _ ih =>
    rw [skimString_ordinary ⟨noQuote, noEscape, Nat.not_lt.1 noControl⟩]
    exact ih found
  | _ => exact absurd found not_yields_error

end CodeGate.Json
