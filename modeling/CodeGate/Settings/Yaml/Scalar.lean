import CodeGate.Settings.Yaml.Cursor
import CodeGate.Text.Hex

/-!
# Texts in a document

A text stands between quotes, or it has none and ends where something else begins, or it is a block of
lines behind a header. The lines of the first two kinds are joined: a single line break is a space, and
of several all but the first stay.

Follows YAML files as sources of `config`.
-/

namespace CodeGate.Settings.Yaml

/-- What stands between two characters of a text whose lines are joined: nothing, blanks in reverse, or
line breaks and so many more of them, of which the first may not count. -/
inductive Gap where
  | nothing
  | blanks (done : List Char)
  | breaks (more : Nat)
  | joined (more : Nat)
  deriving DecidableEq

namespace Gap

/-- The gap with one more blank, which does not count behind a line break. -/
def blank (c : Char) : Gap → Gap
  | nothing => blanks [c]
  | blanks done => blanks (c :: done)
  | gap => gap

/-- The gap with one more line break; the blanks in front of it do not count. -/
def broken : Gap → Gap
  | breaks n => breaks (n + 1)
  | joined n => joined (n + 1)
  | _ => breaks 0

/-- Whether there is a line break. -/
def isBroken : Gap → Bool
  | breaks _ | joined _ => true
  | _ => false

/-- The characters that a gap stands for, in reverse. -/
def fill : Gap → List Char
  | nothing => []
  | blanks done => done
  | breaks 0 => [' ']
  | breaks (n + 1) => List.replicate (n + 1) '\n'
  | joined n => List.replicate n '\n'

end Gap

/-- The character that a letter stands for behind a backslash. -/
def letterEscape? (c : Char) : Option Char :=
  [('0', '\x00'), ('a', '\x07'), ('b', '\x08'), ('t', '\t'), ('\t', '\t'), ('n', '\n'), ('v', '\x0B'),
    ('f', '\x0C'), ('r', '\r'), ('e', '\x1B'), (' ', ' '), ('"', '"'), ('/', '/'), ('\\', '\\'),
    ('N', '\x85'), ('_', '\xA0'), ('L', '\u2028'), ('P', '\u2029')].lookup c

/-- The number of digits behind a letter that announces a code point. -/
def codePointDigits? (c : Char) : Option Nat :=
  [('x', 2), ('u', 4), ('U', 8)].lookup c

/-- What comes next between quotes; behind a single quote a second one may follow. -/
inductive QuotedMode where
  | content
  | quote
  | escape
  | codePoint (left value : Nat)

/-- Reads a text behind its opening quote; `done` holds the characters so far in reverse. A line of it
may not be indented less than `indent`. -/
def quotedBody (single : Bool) (indent : Int) (mode : QuotedMode) (gap : Gap) (done : List Char) (p : Place) :
    List Char → Option (String × Cursor)
  | [] =>
    match mode with
    | .quote => some (String.ofList done.reverse, ⟨p, []⟩)
    | _ => none
  | c :: cs =>
    match mode with
    | .quote =>
      if c = '\'' then quotedBody single indent .content .nothing (c :: done) (p.past c) cs
      else some (String.ofList done.reverse, ⟨p, c :: cs⟩)
    | .escape =>
      if c = '\n' then quotedBody single indent .content (.joined 0) done (p.past c) cs
      else
        match codePointDigits? c with
        | some n => quotedBody single indent (.codePoint n 0) .nothing done (p.past c) cs
        | none =>
          match letterEscape? c with
          | some x => quotedBody single indent .content .nothing (x :: done) (p.past c) cs
          | none => none
    | .codePoint left value =>
      match Text.hexValue? c with
      | none => none
      | some digit =>
        let value := value * 16 + digit
        if 1 < left then quotedBody single indent (.codePoint (left - 1) value) .nothing done (p.past c) cs
        else if value.isValidChar then
          quotedBody single indent .content .nothing (Char.ofNat value :: done) (p.past c) cs
        else none
    | .content =>
      let quote := if single then '\'' else '"'
      if c = '\n' then quotedBody single indent .content gap.broken done (p.past c) cs
      else if isBlank c then
        if gap.isBroken && c = '\t' && p.column < indent then none
        else quotedBody single indent .content (gap.blank c) done (p.past c) cs
      else
        let closes : Bool := c = quote && gap = .joined 0 && p.column = 0
        if gap.isBroken && !closes && (p.column < indent || isDocumentEdge p.column (c :: cs)) then none
        else
          let done := gap.fill ++ done
          if c = quote then
            if single then quotedBody single indent .quote .nothing done (p.past c) cs
            else some (String.ofList done.reverse, ⟨p.past c, cs⟩)
          else if c = '\\' && !single then quotedBody single indent .escape .nothing done (p.past c) cs
          else quotedBody single indent .content .nothing (c :: done) (p.past c) cs

/-- Reads a text between quotes. Behind it the line ends, or a mark of a collection follows, or a colon,
for which outside of brackets the text may have one line only. -/
def quoted? (single inFlow : Bool) (indent : Int) (c : Cursor) : Option (String × Cursor) := do
  let opened := c.pass 1
  let (text, closed) ← quotedBody single indent .content .nothing [] opened.place opened.rest
  let (_, next) ← closed.passSpace? true
  let sound : Bool :=
    match next.char? with
    | none => true
    | some x =>
      x = '\n' || inFlow && (x = ',' || x = '\x7d' || x = ']') ||
        x = ':' && (inFlow || next.place.line = c.place.line)
  if sound then some (text, next) else none

/-- Whether a text without quotes goes on with a character; `next` is the one behind it. -/
def goesOn (inFlow : Bool) (c : Char) (next : Option Char) : Bool :=
  !(c = ':' && (separates next || inFlow && next.any isFlowMark)) && !(inFlow && isFlowMark c)

/-- What comes next in a text without quotes: more of it, or the rest of a line that has to be empty, or
a comment. -/
inductive PlainMode where
  | content
  | idle
  | comment

/-- Reads a text without quotes; `done` holds the characters so far in reverse. It ends at a comment, at
a mark of a collection, at a line that is indented less than `indent`, and where a document ends. Also
told is whether the line has changed behind it. -/
def plainBody (inFlow : Bool) (indent : Int) (mode : PlainMode) (gap : Gap) (done : List Char) (p : Place) :
    List Char → Option (String × Bool × Cursor)
  | [] => some (String.ofList done.reverse, gap.isBroken, ⟨p, []⟩)
  | c :: cs =>
    let next := p.past c
    if c = '\n' then plainBody inFlow indent .content gap.broken done next cs
    else
      match mode with
      | .comment => plainBody inFlow indent .comment gap done next cs
      | .idle =>
        if isBlank c then plainBody inFlow indent .idle gap done next cs
        else if c = '#' then plainBody inFlow indent .comment gap done next cs
        else none
      | .content =>
        if isBlank c then
          let mode := if gap.isBroken && c = '\t' && p.column < indent then .idle else .content
          plainBody inFlow indent mode (gap.blank c) done next cs
        else
          let starts : Bool := gap ≠ .nothing || done.isEmpty
          let ends : Bool :=
            gap.isBroken && !inFlow && p.column < indent ||
              starts && (c = '#' || isDocumentEdge p.column (c :: cs)) || !goesOn inFlow c cs.head?
          if starts && inFlow && c = '-' && cs.head?.any isFlowMark then none
          else if ends then some (String.ofList done.reverse, gap.isBroken, ⟨p, c :: cs⟩)
          else plainBody inFlow indent .content .nothing (c :: (gap.fill ++ done)) next cs

/-- Reads a text without quotes, of which there is at least one character. -/
def plain? (inFlow : Bool) (indent : Int) (c : Cursor) : Option (String × Bool × Cursor) :=
  if inFlow && c.place.column < indent then none
  else (plainBody inFlow indent .content .nothing [] c.place c.rest).filter fun t => t.1 ≠ ""

/-- What becomes of the line breaks at the end of a block. -/
inductive Chomp where
  | strip
  | clip
  | keep
  deriving DecidableEq

/-- The header of a block: what becomes of its end, and how far it is indented, if that is told. -/
structure Header where
  chomp : Chomp := .clip
  increment : Nat := 0

namespace Header

/-- What a sign says about the end of a block. -/
def chompOf? (c : Option Char) : Option Chomp :=
  if c = some '+' then some .keep else if c = some '-' then some .strip else none

/-- The digit at the front, which may not be zero; without one the block shows how far it is indented. -/
def increment? (c : Cursor) : Option (Nat × Cursor) :=
  match c.char? with
  | some d => if d = '0' then none else if d.isDigit then some (d.toNat - 48, c.pass 1) else some (0, c)
  | none => some (0, c)

/-- Reads a header: a sign and a digit in either order, both of which may be missing. -/
def read? (c : Cursor) : Option (Header × Cursor) := do
  match chompOf? c.char? with
  | some chomp =>
    let (increment, c) ← increment? (c.pass 1)
    some (⟨chomp, increment⟩, c)
  | none =>
    let (increment, next) ← increment? c
    match chompOf? next.char? with
    | some chomp => some (⟨chomp, increment⟩, next.pass 1)
    | none => some (⟨.clip, increment⟩, next)

end Header

/-- Passes over the blank lines in front of a block and over the indentation of the first line behind
them; told are the greatest column reached and the number of lines. -/
def blockFront (deepest lines : Nat) (p : Place) : List Char → Nat × Nat × Cursor
  | [] => (max deepest p.column, lines, ⟨p, []⟩)
  | c :: cs =>
    if c = ' ' then blockFront deepest lines (p.past c) cs
    else if c = '\n' then blockFront (max deepest p.column) (lines + 1) (p.past c) cs
    else (max deepest p.column, lines, ⟨p, c :: cs⟩)

/-- Passes over blank lines and over so many spaces of the line behind them. -/
def blockMargin (indent lines : Nat) (p : Place) : List Char → Nat × Cursor
  | [] => (lines, ⟨p, []⟩)
  | c :: cs =>
    if c = ' ' ∧ p.column < indent then blockMargin indent lines (p.past c) cs
    else if c = '\n' then blockMargin indent (lines + 1) (p.past c) cs
    else (lines, ⟨p, c :: cs⟩)

/-- How far a block has been read: the characters so far in reverse, whether a line has ended and how
many blank ones have followed it, whether that line started with a blank, and whether the next
characters are still in a line. -/
structure BlockProgress where
  done : List Char := []
  ended : Bool := false
  lines : Nat := 0
  wasBlank : Bool := false
  inLine : Bool := false

/-- The block with the first character of a new line. A folded block joins lines that do not start with
a blank. -/
def BlockProgress.start (literal : Bool) (c : Char) (b : BlockProgress) : BlockProgress :=
  let blank := isBlank c
  let breaks : List Char := List.replicate b.lines '\n'
  let joint : List Char :=
    if !literal && b.ended && !b.wasBlank && !blank then if b.lines = 0 then [' '] else breaks
    else if b.ended then '\n' :: breaks
    else breaks
  ⟨c :: (joint ++ b.done), false, 0, blank, true⟩

/-- The text of a block that ends at a column, perhaps with the document. -/
def BlockProgress.finish (chomp : Chomp) (indent column : Nat) (atEnd : Bool) (b : BlockProgress) : String :=
  let last : List Char :=
    if chomp = .strip then []
    else (if atEnd && max indent 1 ≤ column then ['\n'] else []) ++ (if b.ended then ['\n'] else [])
  let kept : List Char := if chomp = .keep then List.replicate b.lines '\n' else []
  String.ofList (kept ++ last ++ b.done).reverse

/-- Reads the lines of a block that is indented by `indent`. -/
def blockBody (literal : Bool) (chomp : Chomp) (indent : Nat) (b : BlockProgress) (p : Place) :
    List Char → String × Cursor
  | [] => (b.finish chomp indent p.column true, ⟨p, []⟩)
  | c :: cs =>
    if b.inLine then
      if c = '\n' then blockBody literal chomp indent { b with inLine := false, ended := true } (p.past c) cs
      else blockBody literal chomp indent { b with done := c :: b.done } (p.past c) cs
    else if c = ' ' ∧ p.column < indent then blockBody literal chomp indent b (p.past c) cs
    else if c = '\n' then blockBody literal chomp indent { b with lines := b.lines + 1 } (p.past c) cs
    else if p.column = indent ∧ ¬(indent = 0 ∧ isDocumentEdge p.column (c :: cs)) then
      blockBody literal chomp indent (b.start literal c) (p.past c) cs
    else (b.finish chomp indent p.column false, ⟨p, c :: cs⟩)

/-- The text of a block without a line, at the end of a document; `broken` says whether a line break
stands behind the header. -/
def emptyBlock (chomp : Chomp) (broken : Bool) (lines : Nat) : String :=
  if chomp = .strip || !broken && lines = 0 then ""
  else if chomp = .keep && 0 < lines then String.ofList (List.replicate lines '\n')
  else "\n"

/-- Reads a block from its header on, inside something that is indented by `parent`. -/
def block? (literal : Bool) (parent : Int) (c : Cursor) : Option (String × Cursor) := do
  let (header, c) ← Header.read? c
  let (_, c) ← c.passSpace? true
  if !c.atLineEnd then none
  else
    let broken := c.char? = some '\n'
    let front := c.pass 1
    if front.char? = some '\t' then none
    else
      let outer := (max parent 0).toNat
      let (indent, lines, c) :=
        if header.increment = 0 then
          let (deepest, lines, c) := blockFront 0 0 front.place front.rest
          (max deepest (parent + 1).toNat, lines, c)
        else
          let indent := outer + header.increment
          let (lines, c) := blockMargin indent 0 front.place front.rest
          (indent, lines, c)
      if c.rest.isEmpty then some (emptyBlock header.chomp broken lines, c)
      else if c.place.column < indent ∧ parent < c.place.column then none
      else some (blockBody literal header.chomp indent { lines } c.place c.rest)

end CodeGate.Settings.Yaml
