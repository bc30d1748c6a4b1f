import CodeGate.Text.Alphanumeric
import CodeGate.Text.Hex
import CodeGate.Text.Letter

/-!
# Patterns

A directive of a log filter may hold the values of a field against a pattern: a regular expression, in which
parentheses group, brackets make sets of characters, and a star, a plus or a question mark repeats what is in
front of it. Nothing is ever held against a pattern here, so all that counts is whether a text is one.

Counted repetitions have braces, and a directive leaves no closing brace in a pattern, so an opening one is
a mistake. So is the edge of a word, which the search in one pass that patterns are meant for cannot tell.

Follows what `EnvFilter` takes for a pattern.
-/

namespace CodeGate.CommandLine.Pattern

/-- Reads something from the front of a pattern. -/
abbrev Scan (α : Type) := List Char → Option (α × List Char)

/-- What a part of a pattern that is no group can stand for: a character, any of a set of them, or a place
between two. -/
inductive Atom where
  | char (c : Char)
  | set
  | place
  deriving DecidableEq, Repr

/-- Reads the code point of a character in so many hexadecimal digits. -/
def codePoint (width : Nat) : Scan Atom := fun cs =>
  let front := cs.take width
  let n := Text.hexNumber front
  if front.length = width ∧ (front.all fun c => (Text.hexValue? c).isSome) ∧ n.isValidChar then
    some (.char (Char.ofNat n), cs.drop width)
  else none

/-- The letters that name the large categories of characters. -/
def categories : List Char := ['c', 'l', 'm', 'n', 'p', 's', 'z']

/-- The marks that stand for themselves behind a backslash: all but the angle brackets. -/
def isMark (c : Char) : Bool := c.toNat < 0x80 && !c.isAlphanum && c ≠ '<' && c ≠ '>'

/-- Reads what stands behind a backslash. -/
def escape : Scan Atom
  | 'x' :: cs => codePoint 2 cs
  | 'u' :: cs => codePoint 4 cs
  | 'U' :: cs => codePoint 8 cs
  | 'a' :: cs => some (.char '\x07', cs)
  | 'f' :: cs => some (.char '\x0c', cs)
  | 'n' :: cs => some (.char '\n', cs)
  | 'r' :: cs => some (.char '\r', cs)
  | 't' :: cs => some (.char '\t', cs)
  | 'v' :: cs => some (.char '\x0b', cs)
  | 'A' :: cs => some (.place, cs)
  | 'z' :: cs => some (.place, cs)
  | c :: cs =>
    if c ∈ ['d', 'D', 's', 'S', 'w', 'W'] then some (.set, cs)
    else if c ∈ ['p', 'P'] then
      match cs with
      | kind :: rest => if kind.toLower ∈ categories then some (.set, rest) else none
      | [] => none
    else if isMark c then some (.char c, cs)
    else none
  | [] => none

/-- Reads one part of a set. -/
def setAtom : Scan Atom
  | '\\' :: cs => escape cs
  | c :: cs => some (.char c, cs)
  | [] => none

/-- The text behind a part of a set: a character, a named set, or the characters from one to another. A
hyphen at the end of the set or in front of another hyphen makes no such range. -/
def behindSetPart? (cs : List Char) : Option (List Char) :=
  match setAtom cs with
  | none => none
  | some (first, rest) =>
    let alone := if first = .place then none else some rest
    match rest with
    | '-' :: ']' :: _ => alone
    | '-' :: '-' :: _ => alone
    | '-' :: behind =>
      match first, setAtom behind with
      | .char a, some (.char b, rest) => if a ≤ b then some rest else none
      | _, _ => none
    | _ => alone

/-- The text behind what only the start of a set can have: a caret that turns it round, and then hyphens, or
else a closing bracket, that stand for themselves. -/
def behindSetStart (cs : List Char) : List Char :=
  let plain := match cs with
    | '^' :: cs => cs
    | cs => cs
  let rest := plain.dropWhile (· = '-')
  match rest with
  | ']' :: behind => if rest.length = plain.length then behind else rest
  | _ => rest

/-- The text behind a set, of which the start has been read and at most `n` parts are still to come; other
sets are open around it. -/
def behindSet? : (n : Nat) → (around : Nat) → List Char → Option (List Char)
  | 0, _, _ => none
  | _, _, [] => none
  | n + 1, around, '[' :: cs => behindSet? n (around + 1) (behindSetStart cs)
  | _ + 1, 0, ']' :: cs => some cs
  | n + 1, around + 1, ']' :: cs => behindSet? n around cs
  | n + 1, around, '&' :: '&' :: cs => behindSet? n around cs
  | n + 1, around, '-' :: '-' :: cs => behindSet? n around cs
  | n + 1, around, '~' :: '~' :: cs => behindSet? n around cs
  | n + 1, around, cs =>
    match behindSetPart? cs with
    | none => none
    | some rest => behindSet? n around rest

/-- What an opening parenthesis is the start of: a group, which may have a name, or flags for all that
follows. -/
inductive Opening where
  | group (name : Option String)
  | flags
  deriving DecidableEq, Repr

/-- Whether a group can have a name. -/
def isGroupName : List Char → Bool
  | [] => false
  | c :: cs => (c = '_' || Text.isLetter c) && cs.all fun c => c ∈ ['_', '.', '[', ']'] || Text.isAlphanumeric c

/-- Reads the name of a group up to the angle bracket that closes it. -/
def groupName : Scan Opening := fun cs =>
  let name := cs.takeWhile (· ≠ '>')
  match cs.drop name.length with
  | '>' :: rest => if isGroupName name then some (.group (some (String.ofList name)), rest) else none
  | _ => none

/-- The flags there are, and the sign that takes back those behind it. -/
def flagSigns : List Char := ['-', 'i', 'm', 's', 'u', 'x', 'R', 'U']

/-- Reads flags, each of which is given once, behind those given already. -/
def flags (given : List Char) : Scan Opening
  | [] => none
  | c :: cs =>
    if c = ':' then if given.head? = some '-' then none else some (.group none, cs)
    else if c = ')' then if given = [] ∨ given.head? = some '-' then none else some (.flags, cs)
    else if c ∈ flagSigns ∧ c ∉ given then flags (c :: given) cs
    else none

/-- Reads what belongs to an opening parenthesis. -/
def opening : Scan Opening
  | '?' :: 'P' :: '<' :: cs => groupName cs
  | '?' :: '<' :: cs => groupName cs
  | '?' :: cs => flags [] cs
  | cs => some (.group none, cs)

/-- How far a pattern has been read: the groups that are open, the names that groups have, and whether there
is something that can be repeated. -/
structure State where
  around : Nat := 0
  names : List String := []
  repeats : Bool := false
  deriving DecidableEq, Repr

/-- The state behind a part that can be repeated. -/
def State.part (s : State) : State := { s with repeats := true }

/-- The state where a part has to come before there can be a repetition. -/
def State.start (s : State) : State := { s with repeats := false }

/-- The state behind the start of a group. No two groups have the same name. -/
def State.enter? (s : State) : Opening → Option State
  | .flags => some s.start
  | .group none => some { s.start with around := s.around + 1 }
  | .group (some name) =>
    if name ∈ s.names then none else some { s.start with around := s.around + 1, names := name :: s.names }

/-- Reads one part of a pattern. -/
def step (s : State) : Scan State
  | '(' :: cs =>
    match opening cs with
    | none => none
    | some (what, rest) => (s.enter? what).map (·, rest)
  | ')' :: cs => if s.around = 0 then none else some ({ s.part with around := s.around - 1 }, cs)
  | '|' :: cs => some (s.start, cs)
  | '[' :: cs => (behindSet? cs.length 0 (behindSetStart cs)).map (s.part, ·)
  | '\\' :: cs => (escape cs).map fun (_, rest) => (s.part, rest)
  | '\x7b' :: _ => none
  | c :: cs => if c ∈ ['*', '+', '?'] ∧ !s.repeats then none else some (s.part, cs)
  | [] => none

/-- Whether a text goes on as a pattern from a state and closes all groups, within `n` parts. -/
def goesOn : (n : Nat) → State → List Char → Bool
  | _, s, [] => s.around = 0
  | 0, _, _ => false
  | n + 1, s, cs =>
    match step s cs with
    | none => false
    | some (s, rest) => goesOn n s rest

/-- Whether a text is a pattern. -/
def isPattern (cs : List Char) : Bool := goesOn cs.length {} cs

end CodeGate.CommandLine.Pattern
