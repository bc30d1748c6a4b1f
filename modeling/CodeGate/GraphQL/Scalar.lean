import CodeGate.GraphQL.BlockText
import CodeGate.GraphQL.Document
import CodeGate.Text.Hex

/-!
# Reading numbers, strings and words

The literals that hold no others. Each ends where no longer one can be read, whatever stands behind it:
`01` is two numbers and `truenull` two words.

Follows the documents that `async-graphql` reads.
-/

namespace CodeGate.GraphQL

open CodeGate.Text

/-- How far a number has been read. -/
inductive NumberPart where
  | start
  | sign
  | zero
  | whole
  | point
  | fraction
  | exponentMark
  | exponentSign
  | exponent
  deriving DecidableEq, Repr

namespace NumberPart

/-- Whether a number may end here. -/
def isEnd : NumberPart → Bool
  | zero | whole | fraction | exponent => true
  | _ => false

/-- How far a number is read with one more character, if it goes on. -/
def next? (c : Char) : NumberPart → Option NumberPart
  | start => if c = '-' then some sign else firstDigit
  | sign => firstDigit
  | zero => if c = '.' then some point else exponentAfter
  | whole => if c.isDigit then some whole else if c = '.' then some point else exponentAfter
  | point => if c.isDigit then some fraction else none
  | fraction => if c.isDigit then some fraction else exponentAfter
  | exponentMark =>
    if c = '+' ∨ c = '-' then some exponentSign else if c.isDigit then some exponent else none
  | exponentSign | exponent => if c.isDigit then some exponent else none
where
  /-- The first digit; no other follows a zero. -/
  firstDigit : Option NumberPart :=
    if c = '0' then some zero else if c.isDigit then some whole else none
  /-- The letter that opens an exponent. -/
  exponentAfter : Option NumberPart :=
    if c = 'e' ∨ c = 'E' then some exponentMark else none

/-- The length of the longest number, of which `count` characters have been read; `found` is the length
of the longest one before. -/
def reach (found count : Nat) (part : NumberPart) : List Placed → Nat
  | [] => if part.isEnd then count else found
  | p :: ps =>
    let found := if part.isEnd then count else found
    match part.next? p.char with
    | none => found
    | some next => reach found (count + 1) next ps

end NumberPart

/-- The number that a text of a number stands for, if it is not too great. -/
def numberOf? (text : String) : Option Json.Number :=
  match Json.read text with
  | .ok (.number n) => some n
  | _ => none

/-- Reads a number. -/
def takeNumber : Reads Json.Number := fun ps =>
  match h : skip ps with
  | [] => none
  | p :: r =>
    match NumberPart.start.reach 0 0 (p :: r) with
    | 0 => none
    | n + 1 =>
      (numberOf? (String.ofList (p.char :: (r.take n).map (·.char)))).map fun number =>
        ⟨number, r.drop n, Nat.lt_of_le_of_lt (List.drop_sublist n r).length_le (rest_lt_of_skip h)⟩

/-- The characters that four hexadecimal digits stand for behind a backslash and a `u`. All numbers
from D800 to DFFF are half a character and refused. -/
def codePoint? (a b c d : Char) : Option Char :=
  if [a, b, c, d].all fun x => (hexValue? x).isSome then
    let n := hexNumber [a, b, c, d]
    if n.isValidChar then some (Char.ofNat n) else none
  else none

/-- Reads the rest of a string on one line, the characters read so far coming in reverse. -/
def lineBody {bound : Nat} (done : List Char) (ps : List Placed) (h : ps.length < bound) :
    Option (Taken String bound) :=
  match ps with
  | [] => none
  | p :: r =>
    if p.char = '"' then some ⟨String.ofList done.reverse, r, Nat.lt_of_succ_lt h⟩
    else if p.char = '\\' then
      match r with
      | ⟨'u', _⟩ :: a :: b :: c :: d :: r =>
        match codePoint? a.char b.char c.char d.char with
        | none => none
        | some x => lineBody (x :: done) r (by simp only [List.length_cons] at h; omega)
      | e :: r =>
        match Json.letterEscape? e.char with
        | none => none
        | some x => lineBody (x :: done) r (Nat.lt_of_succ_lt (Nat.lt_of_succ_lt h))
      | [] => none
    else if endsLine p.char then none
    else lineBody (p.char :: done) r (Nat.lt_of_succ_lt h)

/-- Reads the rest of a block, the characters read so far coming in reverse; `quotes` of the last ones
are quotes in a row that are not among them. Three in a row end the block, but with a backslash before
them they belong to its text, as does the backslash. -/
def blockBody {bound : Nat} (done : List Char) (quotes : Nat) :
    (ps : List Placed) → ps.length < bound → Option (Taken String bound)
  | [], _ => none
  | p :: r, h =>
    if p.char = '"' then
      if quotes < 2 then blockBody done (quotes + 1) r (Nat.lt_of_succ_lt h)
      else if done.head? = some '\\' then
        blockBody (List.replicate 3 '"' ++ done) 0 r (Nat.lt_of_succ_lt h)
      else some ⟨String.ofList (blockText done.reverse), r, Nat.lt_of_succ_lt h⟩
    else blockBody (p.char :: List.replicate quotes '"' ++ done) 0 r (Nat.lt_of_succ_lt h)

/-- Reads a block: text between two rows of three quotes. -/
def takeBlock : Reads String := fun ps => do
  let quotes ← takeWord '"' ['"', '"'] ps
  blockBody [] 0 quotes.rest quotes.shorter

/-- Reads a string. Three quotes that no other three close are an empty string and the start of
another. -/
def takeString : Reads String := fun ps =>
  match takeBlock ps with
  | some block => some block
  | none =>
    match takeMark '"' ps with
    | none => none
    | some quote => lineBody [] quote.rest quote.shorter

/-- Reads one of the words with a meaning of their own. -/
def takeConstant : Reads Literal := fun ps =>
  match takeWord 't' "rue".toList ps with
  | some t => some (t.map fun _ => .boolean true)
  | none =>
    match takeWord 'f' "alse".toList ps with
    | some t => some (t.map fun _ => .boolean false)
    | none => (takeWord 'n' "ull".toList ps).map (·.map fun _ => .null)

/-- Reads a literal that holds no others. -/
def takeScalar : Reads Literal := fun ps =>
  match takeNumber ps with
  | some t => some (t.map .number)
  | none =>
    match takeString ps with
    | some t => some (t.map .string)
    | none =>
      match takeConstant ps with
      | some t => some t
      | none => (takeName ps).map (·.map .enumeration)

end CodeGate.GraphQL
