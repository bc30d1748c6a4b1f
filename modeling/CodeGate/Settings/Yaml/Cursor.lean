/-!
# Places in a document

A document is read from front to back, and what a character means depends on its column and on what
stands in front of it on its line. Line breaks have one form, and a document ends at the first zero
character.

Follows YAML files as sources of `config`.
-/

namespace CodeGate.Settings.Yaml

/-- The white space inside a line. -/
def isBlank (c : Char) : Bool := c = ' ' || c = '\t'

/-- The marks of collections between brackets. -/
def isFlowMark (c : Char) : Bool := [',', '[', ']', '\x7b', '\x7d'].contains c

/-- Whether a character, if there is one, separates what is in front of it from what is behind. -/
def separates (c : Option Char) : Bool :=
  match c with
  | none => true
  | some c => isBlank c || c = '\n'

/-- The characters of a document, every line break being one line feed. -/
def normalized : List Char → List Char
  | [] => []
  | '\r' :: '\n' :: cs => '\n' :: normalized cs
  | c :: cs =>
    if c = '\x00' then []
    else if c = '\r' then '\n' :: normalized cs
    else c :: normalized cs

/-- A place in a document, all counted from zero; on a `fresh` line only blanks stand in front of it. -/
structure Place where
  index : Nat := 0
  line : Nat := 0
  column : Nat := 0
  fresh : Bool := true
  deriving DecidableEq, Repr

/-- The place behind a character. -/
def Place.past (c : Char) (p : Place) : Place :=
  if c = '\n' then ⟨p.index + 1, p.line + 1, 0, true⟩
  else ⟨p.index + 1, p.line, p.column + 1, p.fresh && isBlank c⟩

/-- A place and the characters from there on. -/
structure Cursor where
  place : Place
  rest : List Char
  deriving Repr

namespace Cursor

/-- The start of a document. -/
def ofText (text : String) : Cursor := ⟨{}, normalized text.toList⟩

/-- The next character. -/
def char? (c : Cursor) : Option Char := c.rest.head?

/-- The character behind the next one. -/
def second? (c : Cursor) : Option Char := c.rest[1]?

/-- The cursor behind some characters. -/
def pass : Nat → Cursor → Cursor
  | 0, c => c
  | n + 1, ⟨p, cs⟩ =>
    match cs with
    | [] => ⟨p, []⟩
    | x :: cs => pass n ⟨p.past x, cs⟩

/-- The characters at the front of a kind, and the cursor behind them. -/
def passWhile (kind : Char → Bool) (c : Cursor) : List Char × Cursor :=
  let front := c.rest.takeWhile kind
  (front, c.pass front.length)

/-- The cursor at the end of the line. -/
def lineEnd (c : Cursor) : Cursor := (c.passWhile (· ≠ '\n')).2

/-- Whether a line ends here. -/
def atLineEnd (c : Cursor) : Bool := c.rest.isEmpty || c.char? = some '\n'

/-- Passes over blanks, or over spaces only, and over a comment behind them. A comment has to be
separated from what is in front of it. -/
def passSpace? (tabs : Bool) (c : Cursor) : Option (List Char × Cursor) :=
  let (blanks, next) := c.passWhile fun x => x = ' ' || tabs && x = '\t'
  if next.char? = some '#' then
    if blanks = [] then none else some (blanks, next.lineEnd)
  else some (blanks, next)

end Cursor

/-- Whether the characters at a place are a mark between documents: three equal ones at the start of a
line. -/
def isDocumentMark (column : Nat) (mark : Char) (cs : List Char) : Bool :=
  column = 0 && cs.take 3 = [mark, mark, mark] && separates cs[3]?

/-- Whether the characters at a place start or end a document. -/
def isDocumentEdge (column : Nat) (cs : List Char) : Bool :=
  isDocumentMark column '-' cs || isDocumentMark column '.' cs

end CodeGate.Settings.Yaml
