/-!
# Binary64 numbers

The finite numbers of the 64-bit binary floating-point format, held exactly, with the arithmetic the
number reader needs: rounding a fraction to the nearest number (a tie goes to the even neighbour),
products and quotients. Everything is computed on integers.

Follows how `serde_json` reads numbers.
-/

namespace CodeGate

/-- The number `(-1)^negative * significand * 2^exponent`. Of the ways to write a number the one with
`significand < 2^53`, `-1074 ≤ exponent ≤ 971` and, if possible, `2^52 ≤ significand` is used. -/
structure Binary64 where
  negative : Bool
  significand : Nat
  exponent : Int
  deriving DecidableEq, Repr

namespace Binary64

/-- The least significand that takes all 53 bits. -/
def leastFull : Nat := 0x10000000000000

/-- The positive zero. -/
def zero : Binary64 := ⟨false, 0, -1074⟩

/-- A number is zero, of either sign, if its significand is. -/
def isZero (x : Binary64) : Bool := x.significand == 0

/-- The number with the other sign. -/
def neg (x : Binary64) : Binary64 := { x with negative := !x.negative }

/-- The quotient rounded to the nearest integer, a tie to the even one. -/
def divNearest (num den : Nat) : Nat :=
  let q := num / den
  let r := num % den
  if 2 * r < den then q
  else if den < 2 * r then q + 1
  else if q % 2 = 0 then q else q + 1

/-- `num * 2^e` as numerator and denominator. -/
def scaled (num den : Nat) (e : Int) : Nat × Nat :=
  if 0 ≤ e then (num <<< e.toNat, den) else (num, den <<< (-e).toNat)

/-- The exponent of the unit in the last place that the fraction `num / den` is rounded to. -/
def unitExponent (num den : Nat) : Int :=
  let guess := (Nat.log2 num : Int) - (Nat.log2 den : Int) - 52
  let (n, d) := scaled num den (-guess)
  let e := if n < d <<< 52 then guess - 1 else guess
  max e (-1074)

/-- The number nearest to the fraction `num / den`, or nothing where that is beyond the largest
number. -/
def ofFraction? (num den : Nat) : Option Binary64 :=
  if num = 0 then some zero
  else
    let e := unitExponent num den
    let (n, d) := scaled num den (-e)
    let m := divNearest n d
    let (m, e) := if m = 2 * leastFull then (leastFull, e + 1) else (m, e)
    if 971 < e then none else some ⟨false, m, e⟩

/-- The magnitude as numerator and denominator. -/
def magnitude (x : Binary64) : Nat × Nat :=
  scaled x.significand 1 x.exponent

/-- The number nearest to a natural number, which is far below the largest number. -/
def ofNat (n : Nat) : Binary64 := (ofFraction? n 1).getD zero

/-- The number nearest to the product of the magnitudes. -/
def mul? (x y : Binary64) : Option Binary64 :=
  let (a, b) := x.magnitude
  let (c, d) := y.magnitude
  ofFraction? (a * c) (b * d)

/-- The number nearest to the quotient of the magnitudes by a number other than zero. -/
def div? (x y : Binary64) : Option Binary64 :=
  let (a, b) := x.magnitude
  let (c, d) := y.magnitude
  ofFraction? (a * d) (b * c)

/-- The number nearest to a power of ten up to the 308th. -/
def powerOfTen (n : Nat) : Binary64 := ofNat (Nat.pow 10 n)

/-- The number nearest to `digits * 10^exponent`. -/
def ofDecimal? (digits : Nat) (exponent : Int) : Option Binary64 :=
  if 0 ≤ exponent then ofFraction? (digits * Nat.pow 10 exponent.toNat) 1
  else ofFraction? digits (Nat.pow 10 (-exponent).toNat)

end Binary64

end CodeGate
