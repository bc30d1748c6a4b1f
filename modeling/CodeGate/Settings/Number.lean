import CodeGate.Settings.Tree
import CodeGate.Text.Hex
import CodeGate.Word

/-!
# Numbers in settings

What the formats of settings have in common where they write numbers: a sign, digits in some base, and
decimals that are rounded to the nearest number there is.

Follows the formats that `config` reads.
-/

namespace CodeGate.Settings

/-- The value of a row of digits. -/
def valueIn (base : Nat) (ds : List Nat) : Nat := ds.foldl (fun n d => n * base + d) 0

/-- A sign at the front of a word, and the word behind it. -/
def signOf : List Char → Bool × List Char
  | '-' :: cs => (true, cs)
  | '+' :: cs => (false, cs)
  | cs => (false, cs)

/-- The number nearest to `digits * 10^exponent`, unless it is too large. -/
def nearest? (digits : Nat) (exponent : Int) : Option Binary64 :=
  let size : Int := exponent + (Nat.toDigits 10 digits).length
  if digits = 0 ∨ size < -330 then some .zero
  else if 310 < size then none
  else Binary64.ofDecimal? digits exponent

/-- The integer that a word of digits in a base stands for, with or without a sign, if it fits 64 bits. -/
def signedIn? (base : Nat) (cs : List Char) : Option Int := do
  let (negative, front) := signOf cs
  let ds ← front.mapM fun c => (Text.hexValue? c).filter (· < base)
  let magnitude : Int := valueIn base ds
  let n := if negative then -magnitude else magnitude
  if ds ≠ [] ∧ Word.fitsSigned n then some n else none

/-- The integer that a word of decimal digits stands for. -/
def signed64? (cs : List Char) : Option Int := signedIn? 10 cs

/-- The number that a word stands for: digits, of which there is one at least, perhaps with a point
among or beside them, and perhaps an exponent; or infinity or no number, in any case. -/
def fractional? (cs : List Char) : Option Fractional :=
  let (negative, rest) := signOf cs
  let lower := rest.map Char.toLower
  if lower = "inf".toList ∨ lower = "infinity".toList then some (.infinite negative)
  else if lower = "nan".toList then some .undefined
  else
    let front := lower.takeWhile (· ≠ 'e')
    let back := lower.drop front.length
    let whole := front.takeWhile (· ≠ '.')
    let fraction := (front.drop whole.length).drop 1
    let exponent? : Option Int :=
      if back = [] then some 0
      else
        let (below, ds) := signOf (back.drop 1)
        if ds ≠ [] ∧ ds.all Char.isDigit then
          let magnitude : Int := valueIn 10 (ds.map fun c => c.toNat - 48)
          some (if below then -magnitude else magnitude)
        else none
    if whole ++ fraction ≠ [] ∧ (whole ++ fraction).all Char.isDigit then
      exponent?.map fun exponent =>
        let digits := valueIn 10 ((whole ++ fraction).map fun c => c.toNat - 48)
        match nearest? digits (exponent - fraction.length) with
        | some x => .finite (if negative then x.neg else x)
        | none => .infinite negative
    else none

end CodeGate.Settings
