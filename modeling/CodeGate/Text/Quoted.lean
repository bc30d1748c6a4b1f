import CodeGate.Text.Blank
import CodeGate.Text.Printable

/-!
# Quoted text

A text between double quotes in which nothing can be mistaken for the end of the quotation or for a
line of its own: the quote and the backslash are written with a backslash before them, four control
characters have a letter, and everything else that is not printable is written by its code point.

Follows how the messages of `CoreError` and of the stores quote what they were given.
-/

namespace CodeGate.Text

/-- The digits of a number in lower-case hexadecimal, without leading zeros. -/
def hexDigits (n : Nat) : List Char :=
  Nat.toDigits 16 n

/-- How a character is written between the quotes. -/
def quotedChar (c : Char) : List Char :=
  if c = '"' then ['\\', '"']
  else if c = '\\' then ['\\', '\\']
  else if c = '\n' then ['\\', 'n']
  else if c = '\r' then ['\\', 'r']
  else if c = '\t' then ['\\', 't']
  else if c = '\x00' then ['\\', '0']
  else if isControl c || !isPrintable c then ['\\', 'u', '\x7b'] ++ hexDigits c.toNat ++ ['\x7d']
  else [c]

/-- The text between double quotes. -/
def quoted (s : String) : String :=
  String.ofList (['"'] ++ s.toList.flatMap quotedChar ++ ['"'])

end CodeGate.Text
