import CodeGate.Settings.Tree
import CodeGate.Text.Blank

/-!
# INI files

Keys and values in sections; every value is text. A key goes on to the mark that separates it from its
value, and a value goes on to the end of its line and may start with a part between quotes. A backslash
changes the meaning of the character behind it. Comments have lines of their own.

Follows INI files as sources of `config`.
-/

namespace CodeGate.Settings.Ini

/-- The kinds of text in a file. -/
inductive Part where
  | header
  | key
  | quoted (quote : Char)
  | value
  deriving DecidableEq, Repr

/-- What comes next: something new, perhaps at the start of a line; the rest of a comment; the front of
a value; or more of a text, of which the characters so far come in reverse. -/
inductive Mode where
  | fresh (lineStart : Bool)
  | comment
  | valueFront
  | text (part : Part) (done : List Char)
  | escape (part : Part) (done : List Char)
  | codePoint (part : Part) (done digits : List Char)

/-- What has been read: the members of the sections so far, the first of which has no name, each in
reverse, the last section being first; and a key whose value comes next. -/
structure Progress where
  sections : List (String × List (String × Content))
  key : String := ""

/-- A text without the white space at its ends, from its characters in reverse. -/
def trimmed (done : List Char) : String := Text.trim (String.ofList done.reverse)

/-- The character that a letter stands for behind a backslash. -/
def escaped (c : Char) : Char :=
  if c = '0' then '\x00'
  else if c = 'a' then '\x07'
  else if c = 'b' then '\x08'
  else if c = 't' then '\t'
  else if c = 'r' then '\r'
  else if c = 'n' then '\n'
  else c

/-- The code point that four digits make, which come in reverse; a plus sign may stand for the first. -/
def codePoint? (digits : List Char) : Option Char :=
  let ds := match digits.reverse with
    | '+' :: ds => ds
    | ds => ds
  if (ds.all fun c => (Text.hexValue? c).isSome) ∧ (Text.hexNumber ds).isValidChar then
    some (Char.ofNat (Text.hexNumber ds))
  else none

/-- Whether a character ends a text. -/
def Part.isEnd (part : Part) (c : Char) : Bool :=
  match part with
  | .header => c = ']'
  | .key => c = '=' || c = ':'
  | .quoted quote => c = quote
  | .value => c = '\n' || c = '\r'

/-- A section that is opened behind those so far. -/
def Progress.opened (name : String) (p : Progress) : Progress :=
  { sections := (name, []) :: p.sections }

/-- A value for the key that was read, in the last section. -/
def Progress.valued (value : String) (p : Progress) : Progress :=
  match p.sections with
  | [] => p
  | (name, ms) :: rest => { sections := (name, (p.key, .scalar (.text value)) :: ms) :: rest }

/-- What comes behind the last character of a text. The mark behind a key is looked at when the key is
there. -/
def Part.finish? (part : Part) (done : List Char) (c : Char) (p : Progress) : Option (Mode × Progress) :=
  match part with
  | .header => some (.fresh false, p.opened (trimmed done))
  | .key => if trimmed done = "" then none else some (.valueFront, { p with key := trimmed done })
  | .quoted _ => some (.text .value done, p)
  | .value => some (.fresh (c = '\n'), p.valued (trimmed done))

/-- Reads one character. -/
def Mode.step? (p : Progress) (c : Char) : Mode → Option (Mode × Progress)
  | fresh lineStart =>
    if Text.isBlank c then some (.fresh (c = '\n'), p)
    else if c = ';' ∨ c = '#' then if lineStart then some (comment, p) else none
    else if c = '[' then some (.text .header [], p)
    else if c = '=' ∨ c = ':' then none
    else if c = '\\' then some (.escape .key [], p)
    else some (.text .key [c], p)
  | comment => some (if c = '\n' then .fresh true else comment, p)
  | valueFront =>
    if c = '\n' ∨ c = '\r' then Part.finish? .value [] c p
    else if Text.isBlank c then some (valueFront, p)
    else if c = '"' ∨ c = '\'' then some (.text (.quoted c) [], p)
    else if c = '\\' then some (.escape .value [], p)
    else some (.text .value [c], p)
  | .text part done =>
    if part.isEnd c then part.finish? done c p
    else if c = '\\' then some (.escape part done, p)
    else some (.text part (c :: done), p)
  | escape part done =>
    if c = '\n' then some (.text part done, p)
    else if c = 'x' then some (.codePoint part done [], p)
    else some (.text part (escaped c :: done), p)
  | codePoint part done digits =>
    if digits.length < 3 then some (.codePoint part done (c :: digits), p)
    else (codePoint? (c :: digits)).map fun x => (.text part (x :: done), p)

/-- What has been read when the text ends; a value may end there. -/
def Mode.finish? (p : Progress) : Mode → Option Progress
  | fresh _ | comment => some p
  | valueFront => some (p.valued "")
  | .text .value done => some (p.valued (trimmed done))
  | _ => none

/-- Reads the rest of a file. -/
def scan (mode : Mode) (p : Progress) : List Char → Option Progress
  | [] => mode.finish? p
  | c :: cs =>
    match mode.step? p c with
    | none => none
    | some (mode, p) => scan mode p cs

/-- The content of a file: the members without a section, and a table for each section. -/
def read? (text : String) : Option Content := do
  let p ← scan (.fresh true) { sections := [("", [])] } text.toList
  match p.sections.reverse with
  | [] => none
  | (_, front) :: sections =>
    let tables := sections.map fun (name, ms) => (name, Content.ofPairs ms.reverse)
    some (Content.ofPairs (front.reverse ++ tables))

end CodeGate.Settings.Ini
