/-!
# Characters of a text that may be damaged

A request body is a row of bytes. Read as UTF-8 it falls apart into characters and into bytes that
belong to no character. `Glyph` is one such piece; sizes and positions are counted in bytes, so a
piece knows how many bytes it stands for.

Follows how `serde_json` reads a body that need not be UTF-8.
-/

namespace CodeGate.Text

/-- A character, or a byte that is part of no character. -/
inductive Glyph where
  | char (c : Char)
  | stray (b : UInt8)
  deriving DecidableEq, Repr

namespace Glyph

/-- The number of bytes a glyph stands for. -/
def size : Glyph → Nat
  | char c => c.utf8Size
  | stray _ => 1

/-- The glyphs of a sound text: its characters. -/
def ofString (s : String) : List Glyph :=
  s.toList.map char

/-- The number of bytes a row of glyphs stands for. -/
def bytes (gs : List Glyph) : Nat :=
  gs.foldl (fun n g => n + g.size) 0

/-- A byte that continues a character. -/
def isTail (b : UInt8) : Bool := 0x80 ≤ b && b ≤ 0xBF

/-- The six payload bits of a continuing byte. -/
def tailBits (b : UInt8) : Nat := b.toNat % 64

/-- The character that starts with the byte `a` and goes on in `r`, and the number of bytes of `r` that
belong to it: the shortest form only, no surrogates and nothing above U+10FFFF. -/
def leading (a : UInt8) (r : List UInt8) : Option (Char × Nat) :=
  if a < 0x80 then some (Char.ofNat a.toNat, 0)
  else match r with
    | [] => none
    | b :: r =>
      if !isTail b then none
      else if 0xC2 ≤ a && a ≤ 0xDF then
        some (Char.ofNat (a.toNat % 32 * 64 + tailBits b), 1)
      else match r with
        | [] => none
        | c :: r =>
          if !isTail c then none
          else if (a == 0xE0 && 0xA0 ≤ b) || (0xE1 ≤ a && a ≤ 0xEC) || (a == 0xED && b ≤ 0x9F) ||
              a == 0xEE || a == 0xEF then
            some (Char.ofNat (a.toNat % 16 * 4096 + tailBits b * 64 + tailBits c), 2)
          else match r with
            | [] => none
            | d :: _ =>
              if isTail d && ((a == 0xF0 && 0x90 ≤ b) || (0xF1 ≤ a && a ≤ 0xF3) || (a == 0xF4 && b ≤ 0x8F)) then
                some (Char.ofNat (a.toNat % 8 * 262144 + tailBits b * 4096 + tailBits c * 64 + tailBits d), 3)
              else none

/-- Bytes read as UTF-8; a byte that starts no character at its place is stray. -/
def ofBytes : List UInt8 → List Glyph
  | [] => []
  | a :: r =>
    match leading a r with
    | some (c, n) => char c :: ofBytes (r.drop n)
    | none => stray a :: ofBytes r
termination_by bs => bs.length
decreasing_by all_goals simp; try omega

/-- The characters of a row of glyphs, each stray byte replaced by U+FFFD. -/
def toStringLossy (gs : List Glyph) : String :=
  String.ofList (gs.map fun | char c => c | stray _ => '\uFFFD')

end Glyph

end CodeGate.Text
