/-!
# The text of a document

A document is read character by character, each with its place. Between the parts of a document there
may be white space, commas and comments, which mean nothing: the readers here pass over them first, and
each says that it leaves fewer characters than it was given.

Follows the documents that `async-graphql` reads.
-/

namespace CodeGate.GraphQL

/-- A place in a document: line and column, both counted from one, in characters. -/
structure Position where
  line : Nat
  column : Nat
  deriving DecidableEq, Repr

/-- The place behind a character. -/
def Position.past (p : Position) (c : Char) : Position :=
  if c = '\n' then ⟨p.line + 1, 1⟩
  else if c = '\r' then ⟨p.line, 1⟩
  else ⟨p.line, p.column + 1⟩

/-- A character and its place. -/
structure Placed where
  char : Char
  position : Position
  deriving DecidableEq, Repr

/-- Characters with their places, the first of them standing at a given one. -/
def placedFrom (p : Position) : List Char → List Placed
  | [] => []
  | c :: cs => ⟨c, p⟩ :: placedFrom (p.past c) cs

/-- The characters of a text with their places. -/
def placed (text : String) : List Placed := placedFrom ⟨1, 1⟩ text.toList

/-- The characters that end a line. -/
def endsLine (c : Char) : Bool := c = '\n' || c = '\r'

/-- White space, to which commas belong. -/
def isBlank (c : Char) : Bool :=
  c = ' ' || c = ',' || c = '\t' || c = '\uFEFF' || endsLine c

/-- The characters that start a name. -/
def startsName (c : Char) : Bool := c = '_' || c.isAlpha

/-- The characters that go on in a name. -/
def inName (c : Char) : Bool := c = '_' || c.isAlphanum

/-- What is left behind white space and comments; `comment` tells whether a comment is going on. -/
def skipFrom : (comment : Bool) → List Placed → List Placed
  | _, [] => []
  | true, p :: ps => skipFrom (!endsLine p.char) ps
  | false, p :: ps =>
    if isBlank p.char then skipFrom false ps
    else if p.char = '#' then skipFrom true ps
    else p :: ps

/-- What is left behind the white space and the comments at the front. -/
def skip (ps : List Placed) : List Placed := skipFrom false ps

theorem length_skipFrom_le (comment : Bool) (ps : List Placed) :
    (skipFrom comment ps).length ≤ ps.length := by
  fun_induction skipFrom comment ps with
  | case1 => exact Nat.le_refl _
  | case2 p ps ih => exact Nat.le_succ_of_le ih
  | case3 p ps _ ih => exact Nat.le_succ_of_le ih
  | case4 p ps _ _ ih => exact Nat.le_succ_of_le ih
  | case5 => exact Nat.le_refl _

theorem length_skip_le (ps : List Placed) : (skip ps).length ≤ ps.length :=
  length_skipFrom_le false ps

theorem cons_le_of_skip {p : Placed} {r ps : List Placed} (h : skip ps = p :: r) :
    (p :: r).length ≤ ps.length :=
  h ▸ length_skip_le ps

theorem rest_lt_of_skip {p : Placed} {r ps : List Placed} (h : skip ps = p :: r) :
    r.length < ps.length :=
  cons_le_of_skip h

theorem length_dropWhile_le (f : Placed → Bool) (ps : List Placed) :
    (ps.dropWhile f).length ≤ ps.length :=
  (List.dropWhile_sublist f).length_le

theorem rest_le_of_eq_cons {p : Placed} {r ps : List Placed} {n : Nat} (h : ps = p :: r)
    (hn : ps.length < n) : r.length ≤ n := by
  subst h
  exact Nat.le_of_succ_le (Nat.le_of_lt hn)

theorem length_le_self (ps : List Placed) : ps.length ≤ ps.length := Nat.le_refl _

theorem length_le_of_lt {n : Nat} {r ps : List Placed} (hr : r.length < ps.length)
    (h : ps.length ≤ n + 1) : r.length ≤ n :=
  Nat.le_of_lt_succ (Nat.lt_of_lt_of_le hr h)

/-- What was read and the characters behind it, of which there are less than before. -/
structure Taken (α : Type) (before : Nat) where
  value : α
  rest : List Placed
  shorter : rest.length < before

namespace Taken

variable {α β : Type} {n m : Nat}

/-- The same characters read as something else. -/
def map (f : α → β) (t : Taken α n) : Taken β n := ⟨f t.value, t.rest, t.shorter⟩

/-- The same seen from further in front. -/
def widen (t : Taken α n) (h : n ≤ m) : Taken α m := ⟨t.value, t.rest, Nat.lt_of_lt_of_le t.shorter h⟩

end Taken

/-- What was read and the characters behind it, of which there are not more than before. -/
structure Passed (α : Type) (before : Nat) where
  value : α
  rest : List Placed
  fits : rest.length ≤ before

/-- What was read, as something that may have been empty. -/
def Taken.passed {α : Type} {n : Nat} (t : Taken α n) : Passed α n :=
  ⟨t.value, t.rest, Nat.le_of_lt t.shorter⟩

/-- Reads one part. -/
abbrev Reads (α : Type) : Type := (ps : List Placed) → Option (Taken α ps.length)

/-- Reads one character. -/
def takeMark (c : Char) : Reads Unit := fun ps =>
  match h : skip ps with
  | [] => none
  | p :: r => if p.char = c then some ⟨(), r, rest_lt_of_skip h⟩ else none

/-- Reads the letters of a word. -/
def takeLetters {bound : Nat} : (letters : List Char) → (ps : List Placed) → ps.length < bound →
    Option (Taken Unit bound)
  | [], ps, h => some ⟨(), ps, h⟩
  | _ :: _, [], _ => none
  | c :: letters, p :: ps, h =>
    if p.char = c then takeLetters letters ps (Nat.lt_of_succ_lt h) else none

/-- Reads a word that starts with the given character. Nothing is asked of what stands behind it, so a
name may follow at once. -/
def takeWord (first : Char) (letters : List Char) : Reads Unit := fun ps =>
  match h : skip ps with
  | [] => none
  | p :: r => if p.char = first then takeLetters letters r (rest_lt_of_skip h) else none

/-- The characters at the front that go on a name, and what stands behind them. -/
def spanName : List Placed → List Char × List Placed
  | [] => ([], [])
  | p :: ps =>
    if inName p.char then
      let (cs, rest) := spanName ps
      (p.char :: cs, rest)
    else ([], p :: ps)

theorem length_spanName_le (ps : List Placed) : (spanName ps).2.length ≤ ps.length := by
  fun_induction spanName ps with
  | case1 => exact Nat.le_refl _
  | case2 p ps _ cs rest h ih => rw [h] at ih; exact Nat.le_succ_of_le ih
  | case3 => exact Nat.le_refl _

/-- Reads a name at the very front. -/
def takeNameHere : Reads String
  | [] => none
  | p :: r =>
    if startsName p.char then
      some ⟨String.ofList (p.char :: (spanName r).1), (spanName r).2,
        Nat.lt_succ_of_le (length_spanName_le r)⟩
    else none

/-- Reads a name. -/
def takeName : Reads String := fun ps =>
  (takeNameHere (skip ps)).map (·.widen (length_skip_le ps))

end CodeGate.GraphQL
