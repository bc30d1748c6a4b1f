import CodeGate.Text.Glyph
import CodeGate.Text.Hex

/-!
# Percent-encoding

A byte is written as a percent sign and two upper-case hexadecimal digits. Which ASCII characters are
kept as they are depends on the part of the URL; a character outside ASCII is always written by the bytes
of its UTF-8 form.

Follows the percent-encoding of `url`.
-/

namespace CodeGate.Url

open CodeGate.Text

/-- A hexadecimal digit in upper case. -/
def upperHexDigit (n : Nat) : Char :=
  (Nat.digitChar n).toUpper

/-- A byte as a percent sign and two digits. -/
def percentByte (b : UInt8) : List Char :=
  ['%', upperHexDigit (b.toNat / 16), upperHexDigit (b.toNat % 16)]

/-- A character by the bytes of its UTF-8 form. -/
def percentChar (c : Char) : List Char :=
  (String.utf8EncodeChar c).flatMap percentByte

/-- The characters with those that are not kept percent-encoded. -/
def percentEncode (kept : Char → Bool) (cs : List Char) : List Char :=
  cs.flatMap fun c => if kept c then [c] else percentChar c

/-- A printable ASCII character that is not in the list. -/
def keptExcept (encoded : List Char) (c : Char) : Bool :=
  0x20 < c.toNat && c.toNat < 0x7F && !encoded.contains c

/-- What a fragment keeps. -/
def keptInFragment : Char → Bool := keptExcept ['"', '<', '>', '`']

/-- What the query of a web address keeps. -/
def keptInQuery : Char → Bool := keptExcept ['"', '#', '<', '>', '\'']

/-- What a path that is read keeps. -/
def keptInPath : Char → Bool := keptExcept ['"', '<', '>', '`', '#', '?', '\x7b', '\x7d']

/-- What a path segment that is added keeps: nothing in it can be taken for the end of the segment. -/
def keptInSegment : Char → Bool :=
  keptExcept ['"', '<', '>', '`', '#', '?', '\x7b', '\x7d', '/', '%', '\\']

/-- What a user name or a password keeps. -/
def keptInUserInfo : Char → Bool :=
  keptExcept ['"', '<', '>', '`', '#', '?', '\x7b', '\x7d', '/', ':', ';', '=', '@', '[', '\\', ']', '^', '|']

/-- The bytes that a text stands for: each percent sign before two hexadecimal digits makes one byte,
and every other character is taken as it is. -/
def percentDecode : List Char → List UInt8
  | [] => []
  | '%' :: a :: b :: rest =>
    match hexValue? a, hexValue? b with
    | some x, some y => UInt8.ofNat (x * 16 + y) :: percentDecode rest
    | _, _ => 37 :: percentDecode (a :: b :: rest)
  | c :: rest => String.utf8EncodeChar c ++ percentDecode rest

/-- The bytes as text, if they are sound UTF-8. -/
def textOfBytes? (bs : List UInt8) : Option (List Char) :=
  (Glyph.ofBytes bs).mapM fun
    | .char c => some c
    | .stray _ => none

end CodeGate.Url
