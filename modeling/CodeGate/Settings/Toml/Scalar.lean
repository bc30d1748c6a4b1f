import CodeGate.Settings.Number
import CodeGate.Text.Hex

/-!
# Values without parts in TOML

Strings stand between quotes, one or three on each side, and those between double quotes have escapes.
Everything else is one word without spaces: a truth value, a number, or a moment in time.

Follows TOML files as sources of `config`.
-/

namespace CodeGate.Settings.Toml

/-- Reads something from the front of a text. -/
abbrev Scan (α : Type) := List Char → Option (α × List Char)

/-- The white space inside a line. -/
def isSpace (c : Char) : Bool := c = ' ' || c = '\t'

/-- The characters that may stand in strings and comments. -/
def isPlain (c : Char) : Bool := c = '\t' || (0x20 ≤ c.toNat && c.toNat ≠ 0x7F)

/-- The kinds of strings: the quote, whether there are escapes, and whether there may be several
lines. -/
structure Style where
  quote : Char
  escapes : Bool
  multiline : Bool

/-- What comes next in a string. -/
inductive Mode where
  | content
  | escape
  | codePoint (left value : Nat)
  | fold (broken : Bool)
  | foldFeed
  | lineFeed
  | quotes (count : Nat)

/-- The character that a letter stands for behind a backslash. -/
def letterEscape? (c : Char) : Option Char :=
  if c = '"' ∨ c = '\\' then some c
  else if c = 'b' then some '\x08'
  else if c = 't' then some '\t'
  else if c = 'n' then some '\n'
  else if c = 'f' then some '\x0C'
  else if c = 'r' then some '\r'
  else none

/-- The mode behind a character of the content and the content so far, in reverse; none if the
character may not stand there. -/
def Style.take (style : Style) (done : List Char) (c : Char) : Option (Mode × List Char) :=
  if style.escapes && c = '\\' then some (.escape, done)
  else if style.multiline && c = '\n' then some (.content, '\n' :: done)
  else if style.multiline && c = '\r' then some (.lineFeed, done)
  else if isPlain c then some (.content, c :: done)
  else none

/-- Reads a string behind its opening quotes. -/
def Style.scan (style : Style) (mode : Mode) (done : List Char) : Scan String
  | [] =>
    match mode with
    | .quotes n =>
      if 3 ≤ n then some (String.ofList (List.replicate (n - 3) style.quote ++ done).reverse, []) else none
    | _ => none
  | c :: cs =>
    match mode with
    | .content =>
      if c = style.quote then
        if style.multiline then style.scan (.quotes 1) done cs else some (String.ofList done.reverse, cs)
      else
        match style.take done c with
        | none => none
        | some (mode, done) => style.scan mode done cs
    | .escape =>
      if c = 'u' then style.scan (.codePoint 4 0) done cs
      else if c = 'U' then style.scan (.codePoint 8 0) done cs
      else if style.multiline && isSpace c then style.scan (.fold false) done cs
      else if style.multiline && c = '\n' then style.scan (.fold true) done cs
      else if style.multiline && c = '\r' then style.scan .foldFeed done cs
      else
        match letterEscape? c with
        | none => none
        | some x => style.scan .content (x :: done) cs
    | .codePoint left value =>
      match Text.hexValue? c with
      | none => none
      | some digit =>
        let value := value * 16 + digit
        if 1 < left then style.scan (.codePoint (left - 1) value) done cs
        else if value.isValidChar then style.scan .content (Char.ofNat value :: done) cs
        else none
    | .fold broken =>
      if isSpace c then style.scan (.fold broken) done cs
      else if c = '\n' then style.scan (.fold true) done cs
      else if c = '\r' then style.scan .foldFeed done cs
      else if !broken then none
      else if c = style.quote then style.scan (.quotes 1) done cs
      else
        match style.take done c with
        | none => none
        | some (mode, done) => style.scan mode done cs
    | .foldFeed => if c = '\n' then style.scan (.fold true) done cs else none
    | .lineFeed => if c = '\n' then style.scan .content ('\n' :: done) cs else none
    | .quotes n =>
      if c = style.quote then
        if n = 4 then some (String.ofList (style.quote :: style.quote :: done).reverse, cs)
        else style.scan (.quotes (n + 1)) done cs
      else if 3 ≤ n then
        some (String.ofList (List.replicate (n - 3) style.quote ++ done).reverse, c :: cs)
      else
        match style.take (List.replicate n style.quote ++ done) c with
        | none => none
        | some (mode, done) => style.scan mode done cs

/-- A text without a line break at its front. -/
def dropBreak : List Char → List Char
  | '\n' :: cs => cs
  | '\r' :: '\n' :: cs => cs
  | cs => cs

/-- Reads a string of one line. -/
def lineString : Scan String
  | '"' :: cs => Style.scan ⟨'"', true, false⟩ .content [] cs
  | '\'' :: cs => Style.scan ⟨'\'', false, false⟩ .content [] cs
  | _ => none

/-- Reads a string; a line break right behind three opening quotes does not count. -/
def string : Scan String
  | '"' :: '"' :: '"' :: cs => Style.scan ⟨'"', true, true⟩ .content [] (dropBreak cs)
  | '\'' :: '\'' :: '\'' :: cs => Style.scan ⟨'\'', false, true⟩ .content [] (dropBreak cs)
  | cs => lineString cs

/-- The value of a digit in a base. -/
def digitIn? (base : Nat) (c : Char) : Option Nat :=
  (Text.hexValue? c).filter (· < base)

/-- The digits in a word; underscores may stand between two of them. -/
def digitsIn? (base : Nat) (cs : List Char) : Option (List Nat) :=
  let pieces := cs.splitOn '_'
  if pieces.all (· ≠ []) then pieces.flatten.mapM (digitIn? base) else none

/-- The digits of a decimal integer, which start with zero only if that is all. -/
def wholeDigits? (cs : List Char) : Option (List Nat) :=
  (digitsIn? 10 cs).filter fun ds => ds.length = 1 || ds.head? ≠ some 0

/-- The base that the front of a word announces, and its digits. -/
def basedDigits? : List Char → Option (Nat × List Nat)
  | '0' :: 'x' :: cs => (digitsIn? 16 cs).map (16, ·)
  | '0' :: 'o' :: cs => (digitsIn? 8 cs).map (8, ·)
  | '0' :: 'b' :: cs => (digitsIn? 2 cs).map (2, ·)
  | _ => none

/-- The integer that a word stands for, which has to fit 64 bits. -/
def integer? (cs : List Char) : Option Int :=
  let magnitude? : Option Int :=
    match basedDigits? cs with
    | some (base, ds) => some (valueIn base ds : Int)
    | none =>
      let (negative, ds) := signOf cs
      (wholeDigits? ds).map fun ds => if negative then -(valueIn 10 ds : Int) else valueIn 10 ds
  magnitude?.filter Word.fitsSigned

/-- The number that the parts of a word stand for: the digits before and behind the point, and the
exponent. A number that is too small is infinite, and one that is too great is none. -/
def decimal? (negative : Bool) (whole fraction : List Nat) (exponent : Int) : Option Fractional :=
  match nearest? (valueIn 10 (whole ++ fraction)) (exponent - fraction.length) with
  | some x => some (.finite (if negative then x.neg else x))
  | none => if negative then some (.infinite true) else none

/-- The exponent in a word, which may have a sign. -/
def exponent? (cs : List Char) : Option Int :=
  let (negative, ds) := signOf cs
  (digitsIn? 10 ds).map fun ds => if negative then -(valueIn 10 ds : Int) else valueIn 10 ds

/-- The number with a point or an exponent that a word stands for, or infinity or no number. -/
def float? (cs : List Char) : Option Fractional :=
  let (negative, rest) := signOf cs
  if rest = "inf".toList then some (.infinite negative)
  else if rest = "nan".toList then some .undefined
  else
    let isMark (c : Char) : Bool := c = 'e' || c = 'E'
    let front := rest.takeWhile fun c => !isMark c
    let back := rest.drop front.length
    let whole := front.takeWhile (· ≠ '.')
    let point := front.drop whole.length
    if point = [] ∧ back = [] then none
    else do
      let wholeDs ← wholeDigits? whole
      let fractionDs ← if point = [] then some [] else digitsIn? 10 (point.drop 1)
      let e ← if back = [] then some 0 else exponent? (back.drop 1)
      decimal? negative wholeDs fractionDs e

end CodeGate.Settings.Toml
