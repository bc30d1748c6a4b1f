import CodeGate.Json.Printer
import CodeGate.Text.Glyph
import CodeGate.Text.Quoted

/-!
# Why a text is not the JSON that was asked for

A fault has a cause, a place and a trail. The cause says what is wrong. The place is kept as the number
of bytes that lie behind it, which needs no counter while reading; line and column are counted from it
when the fault is put into words. The trail names the members and items on the way to the value in
which the fault arose; where a key cannot be read, the member has no name yet.

Follows the errors of `serde_json`.
-/

namespace CodeGate.Json

open CodeGate.Text

/-- What stands in a text where something else was expected. -/
inductive Found where
  | null
  | bool (value : Bool)
  | number (value : Number)
  | string (text : String)
  | sequence
  | map
  deriving DecidableEq, Repr

/-- What is wrong with a text. -/
inductive Cause where
  | endInValue
  | endInString
  | endInList
  | endInObject
  | noValue
  | noWord
  | noCommaInList
  | noCommaInObject
  | noColon
  | keyNotString
  | trailingComma
  | trailingCharacters
  | tooDeep
  | rawControl
  | unknownEscape
  | badNumber
  | numberTooLarge
  | brokenCharacter
  | loneSurrogate
  | surrogateWithoutPartner
  | wrongType (found : Found) (expected : String)
  | wrongValue (found : Found) (expected : String)
  | wrongLength (count : Nat) (expected : String)
  | missingField (name : String)
  | duplicateField (name : String)
  deriving DecidableEq, Repr

/-- One step of a trail. -/
inductive Step where
  | member (key : String)
  | unnamed
  | item (index : Nat)
  deriving DecidableEq, Repr

/-- A fault: its cause, the bytes of the text behind its place, and its trail. -/
structure Fault where
  cause : Cause
  unread : Nat
  trail : List Step := []
  deriving DecidableEq, Repr

namespace Found

/-- The words for what was found. -/
def words : Found → String
  | null => "null"
  | bool value => "boolean `" ++ (if value then "true" else "false") ++ "`"
  | number (.integer n) => "integer `" ++ String.ofList (integerText n) ++ "`"
  | number (.float x) => "floating point `" ++ String.ofList (floatText x) ++ "`"
  | string text => "string " ++ quoted text
  | sequence => "sequence"
  | map => "map"

end Found

namespace Cause

/-- The words for what is wrong. -/
def words : Cause → String
  | endInValue => "EOF while parsing a value"
  | endInString => "EOF while parsing a string"
  | endInList => "EOF while parsing a list"
  | endInObject => "EOF while parsing an object"
  | noValue => "expected value"
  | noWord => "expected ident"
  | noCommaInList => "expected `,` or `]`"
  | noCommaInObject => "expected `,` or `\x7d`"
  | noColon => "expected `:`"
  | keyNotString => "key must be a string"
  | trailingComma => "trailing comma"
  | trailingCharacters => "trailing characters"
  | tooDeep => "recursion limit exceeded"
  | rawControl => "control character (\\u0000-\\u001F) found while parsing a string"
  | unknownEscape => "invalid escape"
  | badNumber => "invalid number"
  | numberTooLarge => "number out of range"
  | brokenCharacter => "invalid unicode code point"
  | loneSurrogate => "lone leading surrogate in hex escape"
  | surrogateWithoutPartner => "unexpected end of hex escape"
  | wrongType found expected => "invalid type: " ++ found.words ++ ", expected " ++ expected
  | wrongValue found expected => "invalid value: " ++ found.words ++ ", expected " ++ expected
  | wrongLength count expected => "invalid length " ++ toString count ++ ", expected " ++ expected
  | missingField name => "missing field `" ++ name ++ "`"
  | duplicateField name => "duplicate field `" ++ name ++ "`"

/-- A text with such a fault is JSON, but not of the asked shape. -/
def isMismatch : Cause → Bool
  | wrongType .. | wrongValue .. | wrongLength .. | missingField _ | duplicateField _ => true
  | _ => false

end Cause

/-- A place in a text: the line, counted from one, and the bytes before the place in that line. -/
structure Position where
  line : Nat
  column : Nat
  deriving DecidableEq, Repr

/-- The place behind the first `count` bytes of a text. -/
def Position.after (count : Nat) (text : List Glyph) (start : Position) : Position :=
  match text with
  | [] => start
  | g :: rest =>
    if count = 0 then start
    else
      let next := if g = .char '\n' then ⟨start.line + 1, 0⟩ else ⟨start.line, start.column + min count g.size⟩
      Position.after (count - g.size) rest next

/-- The trail in words: keys are joined by points, positions stand in brackets. -/
def trailWords (trail : List Step) : String :=
  let rec go : Bool → List Step → String
    | _, [] => ""
    | first, .member key :: rest => (if first then "" else ".") ++ key ++ go false rest
    | first, .unnamed :: rest => (if first then "" else ".") ++ "?" ++ go false rest
    | _, .item index :: rest => "[" ++ toString index ++ "]" ++ go false rest
  go true trail

namespace Fault

/-- The fault seen from one level further out. -/
def within (step : Step) (f : Fault) : Fault :=
  { f with trail := step :: f.trail }

/-- The line and column of a fault in its text. -/
def position (text : List Glyph) (f : Fault) : Position :=
  Position.after (Glyph.bytes text - f.unread) text ⟨1, 0⟩

/-- The fault in words, with its place. -/
def message (text : List Glyph) (f : Fault) : String :=
  let p := f.position text
  f.cause.words ++ " at line " ++ toString p.line ++ " column " ++ toString p.column

/-- The fault in words, with its place and behind its trail, if that names anything. -/
def trailMessage (text : List Glyph) (f : Fault) : String :=
  if f.trail.all (· = .unnamed) then f.message text else trailWords f.trail ++ ": " ++ f.message text

end Fault

end CodeGate.Json
