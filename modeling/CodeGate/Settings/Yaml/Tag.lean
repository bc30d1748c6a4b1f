import CodeGate.Settings.Yaml.Cursor
import CodeGate.Text.Hex

/-!
# Tags and directives

A tag says of which type a value is. It has a handle, which stands for the front of the type's name and
may be declared in a directive, and the rest of the name.

Follows YAML files as sources of `config`.
-/

namespace CodeGate.Settings.Yaml

/-- A tag as it is written. -/
structure Tag where
  handle : String
  suffix : String
  deriving DecidableEq, Repr

/-- What may be said about a document in front of it: the version of the language, or what a handle
stands for. -/
inductive Directive where
  | version
  | handle (handle front : String)
  deriving DecidableEq, Repr

/-- The characters of words. -/
def isWordChar (c : Char) : Bool := c.isAlphanum || c = '_' || c = '-'

/-- The characters of names of types. -/
def isUriChar (c : Char) : Bool :=
  isWordChar c || ['#', ';', '/', '?', ':', '@', '&', '=', '+', '$', ',', '.', '!', '~', '*', '\'', '(', ')',
    '[', ']', '%'].contains c

/-- The characters of names of types that are not written between angle brackets. -/
def isTagChar (c : Char) : Bool := isUriChar c && !isFlowMark c && c ≠ '!'

/-- The byte that two hexadecimal digits make behind a percent sign. -/
def byte? (cs : List Char) : Option Nat :=
  match cs with
  | '%' :: a :: b :: _ => do
    let high ← Text.hexValue? a
    let low ← Text.hexValue? b
    some (high * 16 + low)
  | _ => none

/-- The character that is written as bytes, and how many characters write it. Two bytes make the number
with these two digits; more are too great. -/
def uriEscape? (cs : List Char) : Option (Char × Nat) := do
  let first ← byte? cs
  if first < 0x80 then some (Char.ofNat first, 3)
  else if 0xC0 ≤ first ∧ first < 0xE0 then
    let last ← byte? (cs.drop 3)
    let number := first * 256 + last
    if 0x80 ≤ last ∧ last < 0xC0 ∧ number.isValidChar then some (Char.ofNat number, 6) else none
  else none

/-- Reads the characters of a kind from the front, at most `n` of them. -/
def uriText (kind : Char → Bool) : (n : Nat) → Cursor → Option (List Char × Cursor)
  | 0, c => some ([], c)
  | n + 1, c =>
    match c.char? with
    | none => some ([], c)
    | some x =>
      if !kind x then some ([], c)
      else do
        let (x, count) ← if x = '%' then uriEscape? c.rest else some (x, 1)
        let (xs, c) ← uriText kind n (c.pass count)
        some (x :: xs, c)

/-- Reads all characters of a kind from the front. -/
def uriTextOf (kind : Char → Bool) (c : Cursor) : Option (List Char × Cursor) :=
  uriText kind c.rest.length c

/-- Reads a handle: an exclamation mark, a word, and perhaps one more exclamation mark. -/
def handle? (c : Cursor) : Option (List Char × Cursor) :=
  if c.char? = some '!' then
    let (word, next) := (c.pass 1).passWhile isWordChar
    if next.char? = some '!' then some ('!' :: word ++ ['!'], next.pass 1) else some ('!' :: word, next)
  else none

/-- Whether a handle has an exclamation mark at both ends. -/
def isFullHandle (handle : List Char) : Bool := 2 ≤ handle.length && handle.getLast? = some '!'

/-- Reads a tag without looking at what stands behind it. A word that no second exclamation mark follows
is the front of the suffix. -/
def tagHere? (c : Cursor) : Option (Tag × Cursor) :=
  if c.second? = some '<' then do
    let (suffix, c) ← uriTextOf isUriChar (c.pass 2)
    if c.char? = some '>' then some (⟨"", String.ofList suffix⟩, c.pass 1) else none
  else do
    let (handle, c) ← handle? c
    let (suffix, c) ← uriTextOf isTagChar c
    if isFullHandle handle then
      if handle.length = 2 ∧ suffix = [] then none
      else some (⟨String.ofList handle, String.ofList suffix⟩, c)
    else
      let suffix := handle.drop 1 ++ suffix
      if suffix = [] then some (⟨"", "!"⟩, c) else some (⟨"!", String.ofList suffix⟩, c)

/-- Reads a tag, which has to be separated from what is behind it. -/
def tag? (inFlow : Bool) (c : Cursor) : Option (Tag × Cursor) :=
  (tagHere? c).filter fun t => separates t.2.char? || inFlow && t.2.char?.any isFlowMark

/-- Reads a number of a version. -/
def versionNumber? (c : Cursor) : Option Cursor :=
  let (digits, next) := c.passWhile Char.isDigit
  if digits = [] ∨ 9 < digits.length then none else some next

/-- Reads the version that a directive tells. -/
def version? (c : Cursor) : Option Cursor := do
  let c ← versionNumber? (c.passWhile isBlank).2
  if c.char? = some '.' then versionNumber? (c.pass 1) else none

/-- Reads the front that a handle stands for. -/
def tagFront? (c : Cursor) : Option (List Char × Cursor) :=
  match c.char? with
  | none => none
  | some x =>
    if x = '!' then do
      let (xs, c) ← uriTextOf isUriChar (c.pass 1)
      some ('!' :: xs, c)
    else if isTagChar x then uriTextOf isUriChar c
    else none

/-- Reads what a directive says about a handle. -/
def handleFront? (c : Cursor) : Option (Directive × Cursor) := do
  let (handle, c) ← handle? (c.passWhile isBlank).2
  if !isFullHandle handle && handle ≠ ['!'] then none
  else
    let (front, c) ← tagFront? (c.passWhile isBlank).2
    if separates c.char? then some (.handle (String.ofList handle) (String.ofList front), c) else none

/-- Reads a directive behind its percent sign, with the line break behind it. One that is not known says
nothing. -/
def directive? (c : Cursor) : Option (Directive × Cursor) := do
  let (word, next) := c.passWhile isWordChar
  if word = [] ∨ !separates next.char? then none
  else
    let (directive, next) ←
      if word = "YAML".toList then (version? next).map fun c => (.version, c)
      else if word = "TAG".toList then handleFront? next
      else some (.handle "" "", next.lineEnd)
    let (_, next) ← next.passSpace? true
    if next.atLineEnd then some (directive, next.pass 1) else none

end CodeGate.Settings.Yaml
