/-!
# Block strings

A block string stands between two rows of three quotes. The indentation that its lines have in common
is layout and not text, and so are the blank lines at its ends.

Follows the documents that `async-graphql` reads.
-/

namespace CodeGate.GraphQL

/-- The lines of a text, which end in a line feed, a carriage return or both; `line` holds the
characters of the current one in reverse. -/
def splitLines (line : List Char) : List Char → List (List Char)
  | [] => [line.reverse]
  | '\r' :: '\n' :: cs => line.reverse :: splitLines [] cs
  | c :: cs => if c = '\n' ∨ c = '\r' then line.reverse :: splitLines [] cs else splitLines (c :: line) cs

/-- The characters that indent. -/
def isIndent (c : Char) : Bool := c = ' ' || c = '\t'

/-- The number of characters that indent a line, unless nothing follows them. -/
def indentOf? (line : List Char) : Option Nat :=
  if line.all isIndent then none else some (line.takeWhile isIndent).length

/-- The indentation that lines have in common, blank lines not counted. -/
def commonIndent (lines : List (List Char)) : Nat :=
  ((lines.filterMap indentOf?).min?).getD 0

/-- A line without so many characters at its start; a shorter line is blank and stays. -/
def dropIndent (n : Nat) (line : List Char) : List Char :=
  if n ≤ line.length then line.drop n else line

/-- The lines without the blank ones at both ends. -/
def dropBlankEnds (lines : List (List Char)) : List (List Char) :=
  let blank (line : List Char) : Bool := line.all isIndent
  ((lines.dropWhile blank).reverse.dropWhile blank).reverse

/-- The text of a block string: its first line starts behind the quotes and is not indented. -/
def blockText (raw : List Char) : List Char :=
  match splitLines [] raw with
  | [] => []
  | first :: others =>
    ['\n'].intercalate (dropBlankEnds (first :: others.map (dropIndent (commonIndent others))))

end CodeGate.GraphQL
