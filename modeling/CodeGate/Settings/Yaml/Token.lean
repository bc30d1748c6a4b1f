import CodeGate.Settings.Yaml.Scalar
import CodeGate.Settings.Yaml.Tag

/-!
# The tokens of a document

Collections without brackets are shown by how far their lines are indented, and a key is known to be one
only by the colon behind it. So a token may turn out later to be the first of a key, or of a collection of
keys: it is marked then, and the marks become tokens of their own in the end.

Follows YAML files as sources of `config`.
-/

namespace CodeGate.Settings.Yaml

/-- A token. -/
inductive Token where
  | directive (directive : Directive)
  | documentStart
  | documentEnd
  | blockSequence
  | blockMapping
  | blockEnd
  | blockEntry
  | flowSequence
  | flowSequenceEnd
  | flowMapping
  | flowMappingEnd
  | flowEntry
  | key
  | value
  | reference (name : String)
  | anchor (name : String)
  | tag (tag : Tag)
  | scalar (isPlain : Bool) (text : String)
  deriving DecidableEq, Repr

/-- A token with its column, and whether a key starts with it, and the mapping of that key. -/
structure Lexeme where
  token : Token
  column : Nat
  startsKey : Bool := false
  startsMapping : Bool := false

/-- The tokens that a token and its marks come to. -/
def Lexeme.tokens (l : Lexeme) : List Token :=
  (if l.startsMapping then [.blockMapping] else []) ++ (if l.startsKey then [.key] else []) ++ [l.token]

/-- A place where a key may start: that of the token with a number. One that is `required` has to turn out
to be a key. -/
structure KeyStart where
  isPossible : Bool := false
  isRequired : Bool := false
  number : Nat := 0
  place : Place := {}

/-- An indentation that is left again: the one around it, and whether a collection ends with it. -/
structure Indent where
  outer : Int
  isBlock : Bool

/-- How far a document has been read. There is one place of a key for each pair of brackets that is open, and one
more around them. -/
structure Scan where
  cursor : Cursor
  lexemes : Array Lexeme := #[]
  keys : List KeyStart := [{}]
  keyAllowed : Bool := true
  indent : Int := -1
  indents : List Indent := []
  /-- Where a value may follow its colon at once. -/
  adjacent : Option Nat := none
  /-- Whether there has been a mapping between braces. -/
  sawBraces : Bool := false

namespace Scan

/-- The number of brackets that are open. -/
def flowLevel (s : Scan) : Nat := s.keys.length - 1

/-- Whether brackets are open. -/
def inFlow (s : Scan) : Bool := 0 < s.flowLevel

/-- The column. -/
def column (s : Scan) : Nat := s.cursor.place.column

/-- One more token. -/
def push (token : Token) (column : Nat) (s : Scan) : Scan :=
  { s with lexemes := s.lexemes.push ⟨token, column, false, false⟩ }

/-- Some characters further. -/
def pass (n : Nat) (s : Scan) : Scan := { s with cursor := s.cursor.pass n }

/-- With a key allowed to start, or not. -/
def allowKey (allowed : Bool) (s : Scan) : Scan := { s with keyAllowed := allowed }

/-- Passes over blanks and a comment. -/
def passSpace? (tabs : Bool) (s : Scan) : Option (List Char × Scan) :=
  (s.cursor.passSpace? tabs).map fun (blanks, cursor) => (blanks, { s with cursor })

/-- The innermost place of a key. -/
def currentKey (s : Scan) : KeyStart := s.keys.headD {}

/-- With another innermost place of a key. -/
def withKey (key : KeyStart) (s : Scan) : Scan := { s with keys := key :: s.keys.tail }

/-- A key may start here, if one is allowed. Where the lines of a mapping start it has to. -/
def saveKey (s : Scan) : Scan :=
  if s.keyAllowed then
    let isRequired : Bool := !s.inFlow && s.indent = s.column && (s.indents.head?.any (·.isBlock))
    s.withKey ⟨true, isRequired, s.lexemes.size, s.cursor.place⟩
  else s

/-- What was taken for the start of a key is none. -/
def removeKey? (s : Scan) : Option Scan :=
  let key := s.currentKey
  if key.isPossible && key.isRequired then none else some (s.withKey { key with isPossible := false })

/-- Outside of brackets a key has one line and not more than 1024 characters in front of its colon. -/
def dropStaleKeys? (s : Scan) : Option Scan :=
  let isStale (key : KeyStart) : Bool :=
    key.isPossible && !s.inFlow &&
      (key.place.line < s.cursor.place.line || key.place.index + 1024 < s.cursor.place.index)
  if s.keys.any fun key => isStale key && key.isRequired then none
  else some { s with keys := s.keys.map fun key => if isStale key then { key with isPossible := false } else key }

/-- The indentation that is left around a column, what is around it, and the number of collections that end. -/
def unrolled (column indent : Int) : List Indent → Int × List Indent × Nat
  | [] => (indent, [], 0)
  | i :: is =>
    if column < indent then
      let (indent, is, ends) := unrolled column i.outer is
      (indent, is, if i.isBlock then ends + 1 else ends)
    else (indent, i :: is, 0)

/-- Ends the collections that are indented further than a column. -/
def unroll (column : Int) (s : Scan) : Scan :=
  if s.inFlow then s
  else
    let (indent, indents, ends) := unrolled column s.indent s.indents
    let lexemes := s.lexemes ++ Array.replicate ends ⟨.blockEnd, s.column, false, false⟩
    { s with indent, indents, lexemes }

/-- Leaves the indentations that belong to no collection. -/
def unrollSoft (s : Scan) : Scan :=
  let outer := (s.indents.takeWhile fun i => !i.isBlock).getLast?.map (·.outer)
  { s with indent := outer.getD s.indent, indents := s.indents.dropWhile fun i => !i.isBlock }

/-- What is inside a collection is indented one column further, although no collection starts there. -/
def rollSoft (s : Scan) : Scan :=
  if !s.inFlow && s.indents.head?.any (·.isBlock) then
    { s with indent := s.indent + 1, indents := ⟨s.indent, false⟩ :: s.indents }
  else s

/-- Indents to a column, if that is further; also told is whether it is, and so a collection starts. -/
def roll (column : Nat) (s : Scan) : Bool × Scan :=
  if s.inFlow then (false, s)
  else
    let s := match s.indents with
      | ⟨outer, false⟩ :: is => if s.indent ≤ (column : Int) then { s with indent := outer, indents := is } else s
      | _ => s
    if s.indent < (column : Int) then (true, { s with indent := column, indents := ⟨s.indent, true⟩ :: s.indents })
    else (false, s)

/-- Indents to a column; if a collection starts there, so does the given token. -/
def rollWith (token : Token) (column : Nat) (s : Scan) : Scan :=
  let (starts, s) := s.roll column
  if starts then s.push token column else s

/-- Marks the token with a number as the start of a key, and perhaps of a mapping. -/
def markKey (number : Nat) (startsMapping : Bool) (s : Scan) : Scan :=
  { s with lexemes := s.lexemes.modify number fun l => { l with startsKey := true, startsMapping } }

/-- Passes over blanks, line breaks and comments, at most `n` of them. Behind a line break a key is
allowed. A tab may not indent what stands in a collection. -/
def toToken? : (n : Nat) → Scan → Option Scan
  | 0, s => some s
  | n + 1, s =>
    match s.cursor.char? with
    | none => some s
    | some c =>
      if c = '\t' && s.indents ≠ [] && s.cursor.place.fresh && s.column < s.indent then do
        let (_, s) ← s.passSpace? true
        if s.cursor.atLineEnd then toToken? n s else none
      else if isBlank c then toToken? n (s.pass 1)
      else if c = '\n' then toToken? n ((s.pass 1).allowKey (s.keyAllowed || !s.inFlow))
      else if c = '#' then toToken? n { s with cursor := s.cursor.lineEnd }
      else some s

/-- Passes over everything up to the next token. -/
def skipped? (s : Scan) : Option Scan := toToken? s.cursor.rest.length s

/-- Passes over spaces, line breaks and comments, at most `n` of them. -/
def toContent : (n : Nat) → Scan → Scan
  | 0, s => s
  | n + 1, s =>
    match s.cursor.char? with
    | none => s
    | some c =>
      if c = ' ' then toContent n (s.pass 1)
      else if c = '\n' then toContent n ((s.pass 1).allowKey (s.keyAllowed || !s.inFlow))
      else if c = '#' then toContent n { s with cursor := s.cursor.lineEnd }
      else s

/-- A mark between documents. -/
def documentMark? (token : Token) (s : Scan) : Option Scan := do
  let s ← (s.unroll (-1)).removeKey?
  some (((s.allowKey false).pass 3).push token s.column)

/-- A mark behind a document, which has its line to itself. -/
def documentEnd? (s : Scan) : Option Scan := do
  let s ← s.documentMark? .documentEnd
  let (_, s) ← s.passSpace? true
  if s.cursor.atLineEnd then some s else none

/-- A directive. -/
def directive? (s : Scan) : Option Scan := do
  let s ← (s.unroll (-1)).removeKey?
  let (directive, cursor) ← Yaml.directive? (s.cursor.pass 1)
  some ({ s with cursor }.allowKey false |>.push (.directive directive) 0)

/-- An opening bracket, which may start a key. -/
def flowStart? (token : Token) (s : Scan) : Option Scan := do
  let column := s.column
  let s := s.saveKey.rollSoft
  if 255 ≤ s.flowLevel then none
  else
    let s := { s with keys := {} :: s.keys, sawBraces := s.sawBraces || token = Token.flowMapping }
    let (_, s) ← ((s.allowKey true).pass 1).passSpace? true
    some (s.push token column)

/-- A closing bracket. What it closes may be a key, whose value may follow the colon at once. -/
def flowEnd? (token : Token) (s : Scan) : Option Scan := do
  let column := s.column
  let s ← s.removeKey?
  let s := if s.inFlow then { s with keys := s.keys.tail } else s
  let (_, s) ← ((s.allowKey false).pass 1).passSpace? true
  let s := if s.inFlow then { s with adjacent := some s.cursor.place.index } else s
  some (s.push token column)

/-- A comma between brackets. -/
def flowEntry? (s : Scan) : Option Scan := do
  let column := s.column
  let s ← s.removeKey?
  let (_, s) ← ((s.allowKey true).pass 1).passSpace? true
  some (s.push .flowEntry column)

/-- Whether the last token is an anchor or a tag at the start of its line. -/
def endsInProperty (s : Scan) : Bool :=
  match s.lexemes.back? with
  | some l =>
    match l.token with
    | .anchor _ | .tag _ => l.column = 0
    | _ => false
  | none => false

/-- A dash in front of an item. -/
def blockEntry? (s : Scan) : Option Scan := do
  if s.inFlow || !s.keyAllowed then none
  else if s.column = 0 && -1 < s.indent && s.endsInProperty then none
  else
    let column := s.column
    let s := (s.pass 1).rollWith .blockSequence column
    let (blanks, s) ← s.passSpace? true
    if blanks.contains '\t' && s.cursor.char? = some '-' && separates s.cursor.second? then none
    else
      let (_, s) ← s.passSpace? false
      let softens : Bool := s.cursor.char?.any fun c => c = '\n' || isFlowMark c
      let s ← (if softens then s.rollSoft else s).removeKey?
      some ((s.allowKey true).push .blockEntry s.column)

/-- A question mark in front of a key. -/
def key? (s : Scan) : Option Scan := do
  if !s.inFlow && !s.keyAllowed then none
  else
    let column := s.column
    let s := if s.inFlow then { s with sawBraces := true } else s.rollWith .blockMapping column
    let s ← s.removeKey?
    let s := (s.allowKey !s.inFlow).pass 1
    let next := toContent s.cursor.rest.length s
    let isSeparated := s.cursor.char?.any fun c => c = ' ' || c = '\n'
    if !isSeparated || next.cursor.char? = some '\t' then none else some (next.push .key column)

/-- A colon in front of a value. If a key may have started before, it has; if not, the key is missing or
stands behind a question mark. A tab may not separate the colon from a value that is a word or a dash. -/
def value? (s : Scan) : Option Scan := do
  let column := s.column
  let key := s.currentKey
  let line := s.cursor.place.line
  let isPair := s.inFlow && !s.sawBraces
  let passed := s.pass 1
  let s ←
    if passed.cursor.char? = some '\t' then do
      let (blanks, next) ← passed.passSpace? true
      if !blanks.contains ' ' && next.cursor.char?.any isWordChar then none else some next
    else some passed
  if key.isPossible then
    if isPair && key.place.line < line then none
    else
      let (starts, s) := s.roll key.place.column
      let s := (s.markKey key.number starts).rollSoft
      some (((s.withKey { key with isPossible := false }).allowKey false).push .value column)
  else if !s.inFlow && !s.keyAllowed then none
  else
    let s := (s.rollWith .blockMapping column).rollSoft
    some ((s.allowKey !s.inFlow).push .value column)

/-- The name behind the mark of an anchor or of a reference to one. -/
def name? (token : String → Token) (s : Scan) : Option Scan :=
  let column := s.column
  let isNameChar (c : Char) : Bool := !isBlank c && c ≠ '\n' && c ≠ '\uFEFF' && !isFlowMark c
  let (name, cursor) := (s.cursor.pass 1).passWhile isNameChar
  if name = [] then none
  else some (({ s.saveKey with cursor }.allowKey false).push (token (String.ofList name)) column)

/-- A tag. -/
def tag? (s : Scan) : Option Scan := do
  let (tag, cursor) ← Yaml.tag? s.inFlow s.cursor
  some (({ s.saveKey with cursor }.allowKey false).push (.tag tag) s.column)

/-- A block of lines, behind which a key may start. -/
def block? (literal : Bool) (s : Scan) : Option Scan := do
  let column := s.column
  let s := s.saveKey.unrollSoft
  let (text, cursor) ← Yaml.block? literal s.indent (s.cursor.pass 1)
  some (({ s with cursor }.allowKey true).push (.scalar false text) column)

/-- A text between quotes. If it is a key between brackets, its value may follow the colon at once. -/
def quoted? (single : Bool) (s : Scan) : Option Scan := do
  let column := s.column
  let (text, cursor) ← Yaml.quoted? single s.inFlow s.indent s.cursor
  let s ← ({ s.saveKey with cursor }.allowKey false).skipped?
  some ({ s with adjacent := some s.cursor.place.index }.push (.scalar false text) column)

/-- A text without quotes. -/
def plain? (s : Scan) : Option Scan := do
  let column := s.column
  let s := s.saveKey.unrollSoft
  let (text, broken, cursor) ← Yaml.plain? s.inFlow (s.indent + 1) s.cursor
  some (({ s with cursor }.allowKey broken).push (.scalar true text) column)

/-- Reads the token that starts with a character. -/
def token? (c : Char) (s : Scan) : Option Scan :=
  let separated := separates s.cursor.second?
  let marksValue : Bool :=
    separated || s.inFlow && (s.cursor.second?.any isFlowMark || s.adjacent = some s.cursor.place.index)
  if c = '[' then s.flowStart? .flowSequence
  else if c = '\x7b' then s.flowStart? .flowMapping
  else if c = ']' then s.flowEnd? .flowSequenceEnd
  else if c = '\x7d' then s.flowEnd? .flowMappingEnd
  else if c = ',' then s.flowEntry?
  else if c = '-' && separated then s.blockEntry?
  else if c = '?' && separated then s.key?
  else if c = ':' && marksValue then s.value?
  else if c = '*' then s.name? .reference
  else if c = '&' then s.name? .anchor
  else if c = '!' then s.tag?
  else if c = '|' && !s.inFlow then s.block? true
  else if c = '>' && !s.inFlow then s.block? false
  else if c = '\'' then s.quoted? true
  else if c = '"' then s.quoted? false
  else if c = '%' || c = '@' || c = '\x60' then none
  else s.plain?

/-- Reads the token at the cursor and ends the collections in front of it. -/
def next? (s : Scan) : Option Scan :=
  match s.cursor.char? with
  | none => some s
  | some c =>
    let s := s.unroll s.column
    if s.column = 0 && c = '%' then s.directive?
    else if isDocumentMark s.column '-' s.cursor.rest then s.documentMark? .documentStart
    else if isDocumentMark s.column '.' s.cursor.rest then s.documentEnd?
    else if s.column < s.indent then none
    else s.token? c

/-- The tokens, if the document ends here. -/
def finish? (s : Scan) : Option (List Token) :=
  if s.keys.any fun key => key.isPossible && key.isRequired then none
  else some ((s.unroll (-1)).lexemes.toList.flatMap Lexeme.tokens)

/-- Reads at most `n` tokens, and all there are. -/
def run? : (n : Nat) → Scan → Option (List Token)
  | 0, _ => none
  | n + 1, s => do
    let s ← s.skipped?
    let s ← s.dropStaleKeys?
    if s.cursor.rest.isEmpty then s.finish?
    else
      let s ← s.next?
      run? n s

end Scan

/-- The tokens of a text, if it consists of tokens. -/
def tokens? (text : String) : Option (List Token) :=
  let cursor := Cursor.ofText text
  Scan.run? (cursor.rest.length + 1) { cursor }

end CodeGate.Settings.Yaml
