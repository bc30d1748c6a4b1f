import CodeGate.Json.Value
import CodeGate.Binary64.Shortest

/-!
# Compact JSON text

A value is written without any space. A string is written with escapes for the quote, the backslash
and the control characters below U+0020 only. A number that is no integer is written with the fewest
digits that read back.

Follows how `serde_json` writes values.
-/

namespace CodeGate.Json

/-- A binary64 number in JSON: positional from `0.00001` up to sixteen digits before the point,
with `.0` after a whole number, and with a signed exponent beyond. -/
def floatText (x : Binary64) : List Char :=
  let sign := if x.negative then ['-'] else []
  if x.isZero then sign ++ ['0', '.', '0']
  else
    let d := x.shortest
    if -5 ≤ d.exponent ∧ d.exponent ≤ 15 then
      let (whole, fraction) := d.positional
      sign ++ whole ++ '.' :: (if fraction = [] then ['0'] else fraction)
    else
      let point := match d.digits with
        | [] => []
        | [first] => [first]
        | first :: more => first :: '.' :: more
      let mark := if d.exponent < 0 then ['e', '-'] else ['e', '+']
      sign ++ point ++ mark ++ Nat.toDigits 10 d.exponent.natAbs

/-- An integer in decimal digits. -/
def integerText (n : Int) : List Char :=
  (if n < 0 then ['-'] else []) ++ Nat.toDigits 10 n.natAbs

/-- A number as JSON text. -/
def Number.text : Number → List Char
  | .integer n => integerText n
  | .float x => floatText x

/-- A four-digit hexadecimal number in lower case. -/
def hexFour (n : Nat) : List Char :=
  [n / 4096 % 16, n / 256 % 16, n / 16 % 16, n % 16].map Nat.digitChar

/-- How a character is written inside a string. -/
def stringChar (c : Char) : List Char :=
  if c = '"' then ['\\', '"']
  else if c = '\\' then ['\\', '\\']
  else if 0x20 ≤ c.toNat then [c]
  else if c = '\x08' then ['\\', 'b']
  else if c = '\t' then ['\\', 't']
  else if c = '\n' then ['\\', 'n']
  else if c = '\x0C' then ['\\', 'f']
  else if c = '\r' then ['\\', 'r']
  else '\\' :: 'u' :: hexFour c.toNat

/-- A string as JSON text. -/
def stringText (s : String) : List Char :=
  '"' :: s.toList.flatMap stringChar ++ ['"']

namespace Value

mutual

/-- The compact text of a value. -/
def chars : Value → List Char
  | null => "null".toList
  | bool true => "true".toList
  | bool false => "false".toList
  | number n => n.text
  | string s => stringText s
  | list [] => ['[', ']']
  | list (v :: vs) => '[' :: chars v ++ charsItems vs
  | object [] => ['\x7b', '\x7d']
  | object ((k, v) :: ms) => '\x7b' :: stringText k ++ ':' :: chars v ++ charsMembers ms

/-- The items after the first one, each behind a comma, and the closing bracket. -/
def charsItems : List Value → List Char
  | [] => [']']
  | v :: vs => ',' :: chars v ++ charsItems vs

/-- The members after the first one, each behind a comma, and the closing brace. -/
def charsMembers : List (String × Value) → List Char
  | [] => ['\x7d']
  | (k, v) :: ms => ',' :: stringText k ++ ':' :: chars v ++ charsMembers ms

end

/-- The compact text of a value. -/
def text (v : Value) : String := String.ofList v.chars

end Value

end CodeGate.Json
