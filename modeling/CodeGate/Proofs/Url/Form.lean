import CodeGate.Proofs.Url.Percent
import CodeGate.Url.Form
import Mathlib.Data.Bool.AllAny

/-!
# A query reads back as pairs

How a query is taken apart by those who receive it: at the ampersands, each piece at its first equals sign,
with plus signs as spaces and percent-encoding undone. A pair that is added comes back behind those the query
had, whatever characters its name and its value have.
-/

namespace CodeGate.Url.Form

/-! ## Decoding -/

/-- The bytes of a text. -/
def bytes (text : String) : List UInt8 := text.toList.flatMap String.utf8EncodeChar

/-- The bytes that a name or a value stands for. -/
def decodePart (cs : List Char) : List UInt8 := percentDecode (cs.map fun c => if c = '+' then ' ' else c)

/-- A piece of a query as a name and a value; without an equals sign it is a name alone. -/
def decodePiece (piece : List Char) : List UInt8 × List UInt8 :=
  (decodePart (piece.takeWhile (· ≠ '=')), decodePart ((piece.dropWhile (· ≠ '=')).drop 1))

/-- The pairs of a query. Empty pieces are none. -/
def decode (query : List Char) : List (List UInt8 × List UInt8) :=
  ((query.splitOn '&').filter (· ≠ [])).map decodePiece

theorem decode_nil : decode [] = [] := rfl

/-! ## Parts -/

/-- What form encoding keeps, and the space. -/
def keptOrSpace (c : Char) : Bool := c = ' ' || kept c

/-- With its plus signs as spaces, an encoded part is percent-encoded. -/
theorem map_encode (cs : List Char) :
    (encode cs).map (fun c => if c = '+' then ' ' else c) = percentEncode keptOrSpace cs := by
  have marks : ∀ x ∈ percentMarks, (if x = '+' then ' ' else x) = x := List.all_iff_forall_prop.1 (by decide)
  rw [encode, percentEncode, List.map_flatMap]
  congr 1
  funext c
  by_cases space : c = ' '
  · subst space
    rfl
  rw [if_neg space]
  by_cases keeps : kept c = true
  · have noPlus : c ≠ '+' := by
      rintro rfl
      revert keeps
      decide
    simp [keptOrSpace, keeps, noPlus]
  · have encodes : keptOrSpace c = false := by simp [keptOrSpace, space, keeps]
    rw [if_neg keeps, encodes]
    calc
      _ = (percentChar c).map id := List.map_congr_left fun x hx => marks x (mem_percentMarks_of_mem_percentChar hx)
      _ = percentChar c := List.map_id _

theorem decodePart_encode (text : String) : decodePart (encode text.toList) = bytes text := by
  rw [decodePart, map_encode, percentDecode_percentEncode (by decide), bytes]

theorem not_mem_encode {c : Char} (notKept : kept c = false) (notMark : c ∉ '+' :: percentMarks) (cs : List Char) :
    c ∉ encode cs := by
  intro inside
  obtain ⟨x, -, hc⟩ := List.mem_flatMap.1 inside
  split at hc
  · exact notMark (List.mem_singleton.1 hc ▸ List.mem_cons_self)
  · split at hc
    · next keeps =>
      rw [List.mem_singleton.1 hc] at notKept
      rw [notKept] at keeps
      cases keeps
    · exact notMark (List.mem_cons_of_mem _ (mem_percentMarks_of_mem_percentChar hc))

/-! ## Pairs -/

theorem decodePiece_pair (name value : String) : decodePiece (pair name value) = (bytes name, bytes value) := by
  have whole : ∀ c ∈ encode name.toList, decide (c ≠ '=') = true := by
    intro c hc
    have absent := not_mem_encode (c := '=') (by decide) (by decide) name.toList
    exact decide_eq_true fun same => absent (same ▸ hc)
  have before : (pair name value).takeWhile (· ≠ '=') = encode name.toList := by
    rw [pair, List.takeWhile_append_of_pos whole]
    simp
  have behind : (pair name value).dropWhile (· ≠ '=') = '=' :: encode value.toList := by
    rw [pair, List.dropWhile_append_of_pos whole]
    simp
  rw [decodePiece, before, behind, List.drop_succ_cons, List.drop_zero, decodePart_encode, decodePart_encode]

theorem decode_pair (name value : String) : decode (pair name value) = [(bytes name, bytes value)] := by
  have whole : '&' ∉ pair name value := by
    have absent := not_mem_encode (c := '&') (by decide) (by decide)
    simp [pair, absent]
  have filled : pair name value ≠ [] := by simp [pair]
  rw [decode, List.splitOn_eq_singleton whole]
  simp [filled, decodePiece_pair]

theorem decode_append_cons (before behind : List Char) :
    decode (before ++ '&' :: behind) = decode before ++ decode behind := by
  simp only [decode, List.splitOn_append_cons_self, List.filter_append, List.map_append]

/-- **A pair that is added comes back**, behind the pairs that the query had. -/
theorem decode_append (query : Option String) (name value : String) :
    decode (append query name value).toList =
      decode (query.getD "").toList ++ [(bytes name, bytes value)] := by
  unfold append
  cases query with
  | none => simp [decode_pair, decode_nil]
  | some q =>
    by_cases empty : q = ""
    · subst empty
      simp [decode_pair, decode_nil]
    · simp [empty, decode_append_cons, decode_pair]

end CodeGate.Url.Form
