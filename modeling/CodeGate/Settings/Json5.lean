import CodeGate.Settings.Number
import CodeGate.Text.Blank
import CodeGate.Text.Letter

/-!
# JSON5 files

JSON as it is written by hand: with comments, with keys that need no quotes, with single quotes, with a
comma behind the last part, and with more forms of numbers.

Follows JSON5 files as sources of `config`.
-/

namespace CodeGate.Settings.Json5

/-- Reads something from the front of a text. -/
abbrev Scan (α : Type) := List Char → Option (α × List Char)

/-- The characters that end a line. -/
def endsLine (c : Char) : Bool := ['\n', '\r', '\u2028', '\u2029'].contains c

/-- White space. -/
def isSpace (c : Char) : Bool := c = '\uFEFF' || Text.isBlank c && c ≠ '\x85'

/-- What may stand between two parts: white space, a comment up to the end of its line, or one that is
closed. -/
inductive Between where
  | space
  | line
  | block

/-- The text behind white space and comments; none if a comment is not closed. -/
def skipFrom : Between → List Char → Option (List Char)
  | .space, '/' :: '/' :: cs => skipFrom .line cs
  | .space, '/' :: '*' :: cs => skipFrom .block cs
  | .space, c :: cs => if isSpace c then skipFrom .space cs else some (c :: cs)
  | .space, [] => some []
  | .line, c :: cs => skipFrom (if endsLine c then .space else .line) cs
  | .line, [] => some []
  | .block, '*' :: '/' :: cs => skipFrom .space cs
  | .block, _ :: cs => skipFrom .block cs
  | .block, [] => none

/-- The text behind the white space and the comments at the front. -/
def skip (cs : List Char) : Option (List Char) := skipFrom .space cs

/-- The text behind a word at the front. -/
def word? : (word : List Char) → (cs : List Char) → Option (List Char)
  | [], cs => some cs
  | _ :: _, [] => none
  | w :: word, c :: cs => if c = w then word? word cs else none

/-- The character that a letter stands for behind a backslash. -/
def letterEscape (c : Char) : Char :=
  if c = 'b' then '\x08'
  else if c = 'f' then '\x0C'
  else if c = 'n' then '\n'
  else if c = 'r' then '\r'
  else if c = 't' then '\t'
  else if c = 'v' then '\x0B'
  else if c = '0' then '\x00'
  else c

/-- What comes next in a text: a character, the rest of an escape, or digits of a code point. -/
inductive Mode where
  | content
  | escape
  | continued
  | codePoint (isUnit : Bool) (left value : Nat)

/-- The characters so far, in reverse, and the first half of a character that two code points make. -/
structure Partial where
  done : List Char := []
  high : Option Nat := none

/-- The text so far, which may not end in half a character. -/
def Partial.text? (p : Partial) : Option String :=
  if p.high.isSome then none else some (String.ofList p.done.reverse)

/-- One more character, which may not stand behind half a character. -/
def Partial.push? (c : Char) (p : Partial) : Option Partial :=
  if p.high.isSome then none else some { p with done := c :: p.done }

/-- One more code point: a character, or a half of one. -/
def Partial.unit? (n : Nat) (p : Partial) : Option Partial :=
  match p.high with
  | some high =>
    if 0xDC00 ≤ n ∧ n ≤ 0xDFFF then
      some ⟨Char.ofNat ((high - 0xD800) * 0x400 + (n - 0xDC00) + 0x10000) :: p.done, none⟩
    else none
  | none =>
    if 0xD800 ≤ n ∧ n ≤ 0xDBFF then some { p with high := some n }
    else if n.isValidChar then some { p with done := Char.ofNat n :: p.done }
    else none

/-- Reads a text behind its opening quote. A backslash at the end of a line joins it with the next. -/
def stringBody (quote : Char) (mode : Mode) (p : Partial) : Scan String
  | [] => none
  | c :: cs =>
    match mode with
    | .escape =>
      if c = '\r' then stringBody quote .continued p cs
      else if endsLine c then stringBody quote .content p cs
      else if c = 'x' then stringBody quote (.codePoint false 2 0) p cs
      else if c = 'u' then stringBody quote (.codePoint true 4 0) p cs
      else if c.isDigit && c ≠ '0' then none
      else
        match p.push? (letterEscape c) with
        | some p => stringBody quote .content p cs
        | none => none
    | .codePoint isUnit left value =>
      match Text.hexValue? c with
      | none => none
      | some digit =>
        let value := value * 16 + digit
        if 1 < left then stringBody quote (.codePoint isUnit (left - 1) value) p cs
        else
          match if isUnit then p.unit? value else p.push? (Char.ofNat value) with
          | some p => stringBody quote .content p cs
          | none => none
    | .content | .continued =>
      if c = '\n' then
        match mode with
        | .continued => stringBody quote .content p cs
        | _ => none
      else if c = quote then p.text?.map fun text => (text, cs)
      else if c = '\\' then stringBody quote .escape p cs
      else if c = '\r' then none
      else
        match p.push? c with
        | some p => stringBody quote .content p cs
        | none => none

/-- Reads a key without quotes; `started` says that its first character has been read. -/
def nameBody (started : Bool) (p : Partial) : Scan String
  | '\\' :: 'u' :: a :: b :: c :: d :: cs =>
    if [a, b, c, d].all fun x => (Text.hexValue? x).isSome then
      match p.unit? (Text.hexNumber [a, b, c, d]) with
      | some p => nameBody true p cs
      | none => none
    else none
  | c :: cs =>
    if Text.isLetter c || c = '$' || c = '_' || started && Text.isNameMark c then
      match p.push? c with
      | some p => nameBody true p cs
      | none => none
    else if started then p.text?.map fun text => (text, c :: cs)
    else none
  | [] => if started then p.text?.map fun text => (text, []) else none

/-- Reads a text between quotes. -/
def string : Scan String
  | '"' :: cs => stringBody '"' .content {} cs
  | '\'' :: cs => stringBody '\'' .content {} cs
  | _ => none

/-- Reads a key. -/
def key : Scan String
  | '"' :: cs => string ('"' :: cs)
  | '\'' :: cs => string ('\'' :: cs)
  | cs => nameBody false {} cs

/-- The digits at the front, and the text behind them. -/
def digits (cs : List Char) : List Char × List Char :=
  let front := cs.takeWhile Char.isDigit
  (front, cs.drop front.length)

/-- The digits of an integer, which start with zero only if that is all. -/
def whole : List Char → List Char × List Char
  | '0' :: cs => (['0'], cs)
  | cs => digits cs

/-- An exponent at the front, if it has digits. -/
def exponent (cs : List Char) : List Char × List Char :=
  match cs with
  | e :: rest =>
    let sign := rest.takeWhile fun c => c = '+' || c = '-'
    let (ds, after) := digits (rest.drop sign.length)
    if (e = 'e' || e = 'E') && sign.length < 2 && ds ≠ [] then (e :: sign ++ ds, after) else ([], cs)
  | [] => ([], [])

/-- Reads a number in decimal digits. One with a point or an exponent is no integer, and may not be
too great. -/
def decimal (sign : List Char) (cs : List Char) : Option (Scalar × List Char) :=
  let (front, rest) := whole cs
  let (fraction, rest) := match rest with
    | '.' :: after => let (ds, after) := digits after; ('.' :: ds, after)
    | rest => ([], rest)
  let (back, rest) := exponent rest
  if front = [] ∧ fraction.length < 2 then none
  else if fraction = [] ∧ back = [] then
    (signed64? (sign ++ front)).map fun n => (.integer n, rest)
  else
    match fractional? (sign ++ front ++ fraction ++ back) with
    | some (.finite x) => some (.float (.finite x), rest)
    | _ => none

/-- The greatest number in hexadecimal digits. -/
def greatestHex : Nat := 0xFFFFFFFF

/-- Reads a number in hexadecimal digits, which has no sign, behind its zero. -/
def hexadecimal (cs : List Char) : Option (Scalar × List Char) :=
  let front := cs.takeWhile fun c => (Text.hexValue? c).isSome
  let n := Text.hexNumber front
  if front ≠ [] ∧ n ≤ greatestHex then some (.integer n, cs.drop front.length) else none

/-- Reads a number behind its sign. Only a minus sign may stand in front of what is no finite number. -/
def unsigned (sign : List Char) (cs : List Char) : Option (Scalar × List Char) :=
  match word? "Infinity".toList cs, word? "NaN".toList cs with
  | some rest, _ => if sign = ['+'] then none else some (.float (.infinite (sign ≠ [])), rest)
  | _, some rest => if sign = ['+'] then none else some (.float .undefined, rest)
  | none, none =>
    match cs with
    | '0' :: x :: rest =>
      if x = 'x' ∨ x = 'X' then if sign = [] then hexadecimal rest else none else decimal sign cs
    | cs => decimal sign cs

/-- Reads a number. -/
def number : Scan Scalar
  | '+' :: cs => unsigned ['+'] cs
  | '-' :: cs => unsigned ['-'] cs
  | cs => unsigned [] cs

/-- Reads a value without parts. -/
def scalar (cs : List Char) : Option (Scalar × List Char) :=
  match string cs with
  | some (text, rest) => some (.text text, rest)
  | none =>
    match word? "null".toList cs, word? "true".toList cs, word? "false".toList cs with
    | some rest, _, _ => some (.null, rest)
    | _, some rest, _ => some (.bool true, rest)
    | _, _, some rest => some (.bool false, rest)
    | none, none, none => number cs

/-- Reads a comma or a closing bracket, and tells whether it was the bracket. -/
def separator (close : Char) (cs : List Char) : Option (Bool × List Char) := do
  match ← skip cs with
  | ',' :: cs => some (false, ← skip cs)
  | c :: cs => if c = close then some (true, cs) else none
  | [] => none

/-- Reads the items of a list up to its end, at most `n` of them; those read so far come in reverse. The
end may stand behind a comma. -/
def items (value : Scan Content) : (n : Nat) → (done : List Content) → Scan Content
  | 0, _, _ => none
  | _, done, ']' :: cs => some (.list done.reverse, cs)
  | n + 1, done, cs => do
    let (v, cs) ← value cs
    let (ends, cs) ← separator ']' cs
    if ends then some (.list (v :: done).reverse, cs) else items value n (v :: done) cs

/-- Reads the members of an object up to its end, at most `n` of them; those read so far come in
reverse. -/
def members (value : Scan Content) : (n : Nat) → (done : List (String × Content)) → Scan Content
  | 0, _, _ => none
  | _, done, '\x7d' :: cs => some (Content.ofPairs done.reverse, cs)
  | n + 1, done, cs => do
    let (k, cs) ← key cs
    match ← skip cs with
    | ':' :: cs =>
      let (v, cs) ← value (← skip cs)
      let (ends, cs) ← separator '\x7d' cs
      if ends then some (Content.ofPairs ((k, v) :: done).reverse, cs) else members value n ((k, v) :: done) cs
    | _ => none

/-- Reads a value in which at most `n` lists and objects stand one in another. -/
def value : (n : Nat) → Scan Content
  | 0, _ => none
  | n + 1, cs =>
    match cs with
    | '[' :: cs => do
      match ← skip cs with
      | ']' :: cs => some (.list [], cs)
      | cs => items (value n) cs.length [] cs
    | '\x7b' :: cs => do
      match ← skip cs with
      | '\x7d' :: cs => some (.table [], cs)
      | cs => members (value n) cs.length [] cs
    | cs => (scalar cs).map fun (v, cs) => (.scalar v, cs)

/-- The content of a file. -/
def read? (text : String) : Option Content := do
  let cs ← skip text.toList
  let (v, cs) ← value (cs.length + 1) cs
  match ← skip cs with
  | [] => some v
  | _ => none

end CodeGate.Settings.Json5
