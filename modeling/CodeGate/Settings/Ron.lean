import CodeGate.Settings.Number
import CodeGate.Text.Hex

/-!
# RON files

Object notation with the names of types: values may be optional, and collections are lists and tuples,
maps with keys of any kind, and structures with named fields. The names of types mean nothing here, and a
name alone is a structure without fields.

Follows RON files as sources of `config`.
-/

namespace CodeGate.Settings.Ron

/-- Reads something from the front of a text. -/
abbrev Scan (α : Type) := List Char → Option (α × List Char)

/-- A value. -/
inductive Value where
  | scalar (value : Scalar)
  | char (c : Char)
  | optional (value : Value)
  | list (items : List Value)
  | map (members : List (Value × Value))
  deriving Repr, Inhabited

/-- White space. -/
def isSpace (c : Char) : Bool := c = ' ' || c = '\t' || c = '\n' || c = '\r'

/-- What may stand between two parts: white space, a comment up to the end of its line, or one that is
closed, in which there may be others. -/
inductive Between where
  | space
  | line
  | block (level : Nat)

/-- The text behind white space and comments; none if a comment is not closed. -/
def skipFrom : Between → List Char → Option (List Char)
  | .space, '/' :: '/' :: cs => skipFrom .line cs
  | .space, '/' :: '*' :: cs => skipFrom (.block 0) cs
  | .space, '/' :: _ => none
  | .space, c :: cs => if isSpace c then skipFrom .space cs else some (c :: cs)
  | .space, [] => some []
  | .line, c :: cs => skipFrom (if c = '\n' then .space else .line) cs
  | .line, [] => some []
  | .block level, '/' :: '*' :: cs => skipFrom (.block (level + 1)) cs
  | .block 0, '*' :: '/' :: cs => skipFrom .space cs
  | .block (level + 1), '*' :: '/' :: cs => skipFrom (.block level) cs
  | .block level, _ :: cs => skipFrom (.block level) cs
  | .block _, [] => none

/-- The text behind the white space and the comments at the front. -/
def skip (cs : List Char) : Option (List Char) := skipFrom .space cs

/-- The text behind other text at the front. -/
def behind? : (front : List Char) → (cs : List Char) → Option (List Char)
  | [], cs => some cs
  | _ :: _, [] => none
  | f :: front, c :: cs => if c = f then behind? front cs else none

/-- The characters that go on in a name. -/
def inName (c : Char) : Bool := c.isAlphanum || c = '_'

/-- The characters of a name that is marked as one. -/
def inMarkedName (c : Char) : Bool := inName c || c = '.' || c = '+' || c = '-'

/-- The text behind a word at the front, which has to end there. -/
def behindWord? (word : String) (cs : List Char) : Option (List Char) :=
  (behind? word.toList cs).filter fun rest => !rest.head?.any inName

/-- Reads a name. The letter `r` and a hash mark it as one; with a quote behind them they open a text. -/
def name : Scan String
  | 'r' :: '#' :: c :: cs =>
    if inMarkedName c then
      let front := (c :: cs).takeWhile inMarkedName
      some (String.ofList front, (c :: cs).drop front.length)
    else none
  | ['r'] => none
  | ['r', '#'] => none
  | 'r' :: '"' :: _ => none
  | c :: cs =>
    if c.isAlpha || c = '_' then
      let front := (c :: cs).takeWhile inName
      some (String.ofList front, (c :: cs).drop front.length)
    else none
  | [] => none

/-- Reads the code point between braces, of one digit to six, behind the opening one. -/
def codePoint (cs : List Char) : Option (Char × List Char) :=
  let front := cs.takeWhile fun c => (Text.hexValue? c).isSome
  let n := Text.hexNumber front
  match cs.drop front.length with
  | '\x7d' :: rest =>
    if front ≠ [] ∧ front.length ≤ 6 ∧ n.isValidChar then some (Char.ofNat n, rest) else none
  | _ => none

/-- Reads what stands behind a backslash. -/
def escape : Scan Char
  | '\'' :: cs => some ('\'', cs)
  | '"' :: cs => some ('"', cs)
  | '\\' :: cs => some ('\\', cs)
  | 'n' :: cs => some ('\n', cs)
  | 'r' :: cs => some ('\r', cs)
  | 't' :: cs => some ('\t', cs)
  | '0' :: cs => some ('\x00', cs)
  | 'x' :: a :: b :: cs =>
    if (Text.hexValue? a).isSome ∧ (Text.hexValue? b).isSome then
      some (Char.ofNat (Text.hexNumber [a, b]), cs)
    else none
  | 'u' :: '\x7b' :: cs => codePoint cs
  | _ => none

/-- Reads a text behind its opening quote, at most `n` characters of it. -/
def stringBody : (n : Nat) → (done : List Char) → Scan String
  | 0, _, _ => none
  | _, _, [] => none
  | n + 1, done, c :: cs =>
    if c = '"' then some (String.ofList done.reverse, cs)
    else if c = '\\' then
      match escape cs with
      | none => none
      | some (x, cs) => stringBody n (x :: done) cs
    else stringBody n (c :: done) cs

/-- Reads a text without escapes up to its closing quote and the hashes behind that. -/
def rawBody (hashes : List Char) (done : List Char) : Scan String
  | [] => none
  | c :: cs =>
    match if c = '"' then behind? hashes cs else none with
    | some rest => some (String.ofList done.reverse, rest)
    | none => rawBody hashes (c :: done) cs

/-- Reads a text. -/
def string : Scan String
  | '"' :: cs => stringBody (cs.length + 1) [] cs
  | 'r' :: cs =>
    let hashes := cs.takeWhile (· = '#')
    match cs.drop hashes.length with
    | '"' :: body => rawBody hashes [] body
    | _ => none
  | _ => none

/-- Reads a character between single quotes. -/
def char : Scan Char
  | '\'' :: '\\' :: cs =>
    match escape cs with
    | some (c, '\'' :: rest) => some (c, rest)
    | _ => none
  | '\'' :: c :: '\'' :: rest => if c = '\'' then none else some (c, rest)
  | _ => none

/-- The characters of integers in any base. -/
def inInteger (c : Char) : Bool := (Text.hexValue? c).isSome || c = '_'

/-- The characters of numbers with a point or an exponent. -/
def inFloat (c : Char) : Bool := c.isDigit || ['e', 'E', '+', '-', '.', '_'].contains c

/-- The base that the front of an integer announces, and the text behind that. -/
def baseOf : List Char → Nat × List Char
  | '0' :: 'x' :: cs => (16, cs)
  | '0' :: 'o' :: cs => (8, cs)
  | '0' :: 'b' :: cs => (2, cs)
  | cs => (10, cs)

/-- Reads an integer without its sign; underscores may stand between digits and behind them. -/
def magnitude (cs : List Char) : Option (Nat × List Char) := do
  let (base, cs) := baseOf cs
  let front := cs.takeWhile inInteger
  let ds ← (front.filter (· ≠ '_')).mapM fun c => (Text.hexValue? c).filter (· < base)
  if front = [] ∨ front.head? = some '_' then none else some (valueIn base ds, cs.drop front.length)

/-- Reads an integer. With a sign it has to fit 64 bits with a sign, and without one 64 bits; what does
not fit with a sign is no longer an integer. -/
def integer (cs : List Char) : Option (Scalar × List Char) := do
  let isSigned := cs.head? = some '+' || cs.head? = some '-'
  let (negative, front) := signOf cs
  let (size, rest) ← magnitude front
  let n : Int := if negative then -size else size
  if Word.fitsSigned n then some (.integer n, rest)
  else if !isSigned && size < Word.count then some (.float (.finite (Binary64.ofNat size)), rest)
  else none

/-- Reads a number that is no integer. -/
def float (cs : List Char) : Option (Scalar × List Char) :=
  match behindWord? "inf" cs, behindWord? "-inf" cs, behindWord? "NaN" cs with
  | some rest, _, _ => some (.float (.infinite false), rest)
  | _, some rest, _ => some (.float (.infinite true), rest)
  | _, _, some rest => some (.float .undefined, rest)
  | none, none, none =>
    let front := cs.takeWhile inFloat
    (fractional? front).map fun x => (.float x, cs.drop front.length)

/-- Reads a number. It is read as an integer first unless it goes on further as another number. -/
def number (cs : List Char) : Option (Scalar × List Char) :=
  let (_, front) := signOf cs
  if (front.takeWhile inInteger).length < (front.takeWhile inFloat).length then float cs
  else (integer cs).or (float cs)

/-- What has been switched on for a file. -/
structure Extensions where
  implicitSome : Bool := false

/-- Reads a comma, if there is one, and the white space around it. -/
def comma (cs : List Char) : Option (Bool × List Char) := do
  match ← skip cs with
  | ',' :: cs => some (true, ← skip cs)
  | cs => some (false, cs)

/-- Reads parts with commas between them up to a closing mark, at most `n` of them; those read so far
come in reverse, and a comma has to stand in front of the next one unless it is there already. -/
def separated {α : Type} (part : Scan α) (close : Char) :
    (n : Nat) → (ready : Bool) → (done : List α) → Scan (List α)
  | 0, _, _, _ => none
  | n + 1, ready, done, cs => do
    match ← skip cs with
    | [] => none
    | c :: cs =>
      if c = close then some (done.reverse, cs)
      else if !ready then none
      else
        let (p, cs) ← part (c :: cs)
        let (ready, cs) ← comma cs
        separated part close n ready (p :: done) cs

/-- Reads parts up to a closing mark, behind the opening one. -/
def partsUntil {α : Type} (part : Scan α) (close : Char) (cs : List Char) : Option (List α × List Char) :=
  separated part close (cs.length + 1) true [] cs

/-- Reads a key, a colon and a value. -/
def member (key value : Scan Value) : Scan (Value × Value) := fun cs => do
  let (k, cs) ← key cs
  match ← skip cs with
  | ':' :: cs =>
    let (v, cs) ← value (← skip cs)
    some ((k, v), cs)
  | _ => none

/-- Reads the name of a field as a value. -/
def fieldName : Scan Value := fun cs =>
  (name cs).map fun (text, cs) => (.scalar (.text text), cs)

/-- Whether parentheses hold fields with names, from the text behind the opening one. -/
def holdsFields (cs : List Char) : Option Bool := do
  match name (← skip cs) with
  | none => some false
  | some (_, cs) =>
    match ← skip cs with
    | [] => none
    | c :: _ => some (c = ':')

/-- A value that is nothing. -/
def nothing : Value := .scalar .null

/-- Reads what is behind the name of a type: parts between parentheses, or nothing. -/
def structured (isOpen : Bool) (part : Scan Value) (cs : List Char) : Option (Value × List Char) :=
  match cs with
  | '(' :: cs => do
    let fields ← holdsFields cs
    if !isOpen then none
    else if fields then (partsUntil (member fieldName part) ')' cs).map fun (ms, cs) => (.map ms, cs)
    else (partsUntil part ')' cs).map fun (vs, cs) => (.list vs, cs)
  | cs => some (nothing, cs)

/-- Reads what is behind the word for a value that is there: the value between parentheses, or without
them if that is switched on. -/
def present (extensions : Extensions) (inner : Scan Value) (cs : List Char) : Option (Value × List Char) := do
  match ← skip cs with
  | '(' :: cs =>
    let (v, cs) ← inner (← skip cs)
    match ← comma cs with
    | (_, ')' :: cs) => some (.optional v, cs)
    | _ => none
  | cs => if extensions.implicitSome then (inner cs).map fun (v, cs) => (.optional v, cs) else none

/-- Reads a word with a meaning of its own. -/
def constant (cs : List Char) : Option (Value × List Char) :=
  [("true", Scalar.bool true), ("false", .bool false), ("None", .null), ("inf", .float (.infinite false)),
    ("-inf", .float (.infinite true)), ("NaN", .float .undefined)].findSome? fun (word, value) =>
      (behindWord? word cs).map fun cs => (.scalar value, cs)

/-- Reads a value that starts with no name. -/
def unnamed (isOpen : Bool) (part : Scan Value) (cs : List Char) : Option (Value × List Char) :=
  match cs with
  | '(' :: ')' :: cs => some (nothing, cs)
  | '(' :: cs => structured isOpen part ('(' :: cs)
  | '[' :: cs => if isOpen then (partsUntil part ']' cs).map fun (vs, cs) => (.list vs, cs) else none
  | '\x7b' :: cs =>
    if isOpen then (partsUntil (member part part) '\x7d' cs).map fun (ms, cs) => (.map ms, cs) else none
  | '\'' :: cs => (char ('\'' :: cs)).map fun (c, cs) => (.char c, cs)
  | cs =>
    match string cs with
    | some (text, cs) => some (.scalar (.text text), cs)
    | none => (number cs).map fun (n, cs) => (.scalar n, cs)

/-- Reads a value, given how to read the parts of one and what may be there or not; where it is not open,
it may have no parts. -/
def valueOf (extensions : Extensions) (isOpen : Bool) (part inner : Scan Value) : Scan Value := fun cs => do
  match constant cs with
  | some v => some v
  | none =>
    match behindWord? "Some" cs with
    | some cs => present extensions inner cs
    | none =>
      match name cs with
      | some (_, cs) => structured isOpen part (← skip cs)
      | none => unnamed isOpen part cs

/-- Reads a value. Each collection takes one of the steps that are left, and so does each part of one and
each value that may be there or not. -/
def value (extensions : Extensions) : (steps : Nat) → Scan Value
  | 0 => valueOf extensions false (fun _ => none) (fun _ => none)
  | 1 => valueOf extensions true (fun _ => none) (value extensions 0)
  | n + 2 => valueOf extensions true (value extensions n) (value extensions (n + 1))

/-- The number of steps. -/
def maxSteps : Nat := 128

/-- The extensions with one more switched on, if there is one of that name. -/
def Extensions.with? (name : String) (extensions : Extensions) : Option Extensions :=
  if name = "implicit_some" then some { extensions with implicitSome := true }
  else if name = "unwrap_newtypes" ∨ name = "unwrap_variant_newtypes" then some extensions
  else none

/-- The text behind some marks, each with white space behind it. -/
def behindAll? : (marks : List String) → (cs : List Char) → Option (List Char)
  | [], cs => some cs
  | mark :: marks, cs => do
    let cs ← behind? mark.toList cs
    behindAll? marks (← skip cs)

/-- Reads the names of extensions, at most `n` of them. -/
def extensionNames : (n : Nat) → (done : Extensions) → Scan Extensions
  | 0, _, _ => none
  | n + 1, done, cs => do
    let (text, cs) ← name cs
    let done ← done.with? text
    let (more, cs) ← comma cs
    let goesOn : Bool := cs.head?.any inName
    if more && goesOn then extensionNames n done cs
    else if goesOn then none
    else some (done, cs)

/-- Reads the extensions at the front of a file, in at most `n` groups, with the white space around
them. -/
def extensionGroups : (n : Nat) → (done : Extensions) → Scan Extensions
  | 0, _, _ => none
  | n + 1, done, cs => do
    match ← skip cs with
    | '#' :: cs =>
      let cs ← behindAll? ["#", "!", "[", "enable", "("] ('#' :: cs)
      let (done, cs) ← extensionNames (cs.length + 1) done cs
      let cs ← behindAll? [")", "]"] cs
      extensionGroups n done cs
    | cs => some (done, cs)

/-- The text that is a key; only texts and characters are keys. Characters come before texts. -/
def keyText? : Value → Option (Bool × String)
  | .scalar (.text s) => some (true, s)
  | .char c => some (false, c.toString)
  | _ => none

/-- The table of some members whose keys are told to be texts or characters. -/
def tableOf (ms : List ((Bool × String) × Content)) : Content :=
  let ofKind (isText : Bool) := (ms.filter (·.1.1 = isText)).map fun m => (m.1.2, m.2)
  Content.ofPairs (ofKind false ++ ofKind true)

mutual

/-- What a value holds. -/
def Value.content? : Value → Option Content
  | .scalar value => some (.scalar value)
  | .char c => some (.scalar (.text c.toString))
  | .optional value => value.content?
  | .list items => (contentItems? items).map .list
  | .map members => (contentMembers? members).map tableOf

/-- What the items of a list hold. -/
def contentItems? : List Value → Option (List Content)
  | [] => some []
  | v :: vs => do
    let content ← v.content?
    let contents ← contentItems? vs
    some (content :: contents)

/-- What the members of a map hold. -/
def contentMembers? : List (Value × Value) → Option (List ((Bool × String) × Content))
  | [] => some []
  | (k, v) :: ms => do
    let key ← keyText? k
    let content ← v.content?
    let contents ← contentMembers? ms
    some ((key, content) :: contents)

end

/-- The content of a file. -/
def read? (text : String) : Option Content := do
  let (extensions, cs) ← extensionGroups (text.length + 1) {} text.toList
  let (v, cs) ← value extensions maxSteps cs
  match ← skip cs with
  | [] => v.content?
  | _ => none

end CodeGate.Settings.Ron
