import CodeGate.Binary64

/-!
# The fewest digits that read back

A number is shown by the decimal with the fewest digits among those that round to it; of two such
decimals with equally many digits the nearer one is taken, and the even one of a tie.

Follows how `serde_json` writes numbers.
-/

namespace CodeGate.Binary64

/-- The digits `digits` with the point after the first of them, times `10^exponent`. -/
structure Decimal where
  digits : List Char
  exponent : Int
  deriving DecidableEq, Repr

/-- The interval of the magnitudes that round to the number, with one common denominator; its
ends belong to it exactly if the significand is even. -/
structure Basin where
  low : Nat
  value : Nat
  high : Nat
  den : Nat
  closed : Bool

/-- The magnitudes that round to a number other than zero. -/
def basin (x : Binary64) : Basin :=
  let (n, d) := scaled (4 * x.significand) 4 x.exponent
  let (half, _) := scaled 2 4 x.exponent
  let below := if x.significand = leastFull ∧ -1074 < x.exponent then half / 2 else half
  ⟨n - below, n, n + half, d, x.significand % 2 = 0⟩

/-- Whether `c / unit` lies in the basin. -/
def Basin.holds (b : Basin) (c unit : Nat) : Bool :=
  let c := c * b.den
  if b.closed then b.low * unit ≤ c && c ≤ b.high * unit
  else b.low * unit < c && c < b.high * unit

/-- The decimal exponent of a fraction: the `k` with `10^k ≤ num / den < 10^(k+1)`. -/
def decimalExponent (num den : Nat) : Int :=
  let guess : Int := ((Nat.log2 num : Int) - (Nat.log2 den : Int)) * 30103 / 100000 - 1
  let atLeast (k : Int) : Bool :=
    if 0 ≤ k then den * Nat.pow 10 k.toNat ≤ num else den ≤ num * Nat.pow 10 (-k).toNat
  if atLeast (guess + 3) then guess + 3
  else if atLeast (guess + 2) then guess + 2
  else if atLeast (guess + 1) then guess + 1
  else if atLeast guess then guess else guess - 1

/-- The candidate with a given number of digits: the neighbour of the value on the grid of step
`10^step` that rounds to the number, if one does. -/
def onGrid? (b : Basin) (step : Int) : Option Nat :=
  let up := if 0 ≤ step then Nat.pow 10 step.toNat else 1
  let down := if 0 ≤ step then 1 else Nat.pow 10 (-step).toNat
  let q := b.value * down / (b.den * up)
  let r := b.value * down % (b.den * up)
  let low := b.holds (q * up) down
  let high := b.holds ((q + 1) * up) down
  if low && high then
    if 2 * r < b.den * up then some q
    else if b.den * up < 2 * r then some (q + 1)
    else if q % 2 = 0 then some q else some (q + 1)
  else if low then some q
  else if high then some (q + 1)
  else none

/-- The digits without the zeros at their end; one digit at least. -/
def trimZeros (ds : List Char) : List Char :=
  match (ds.reverse.dropWhile (· == '0')).reverse with
  | [] => ['0']
  | ds => ds

/-- The shortest decimal of a number other than zero: grids of one digit, two digits and so on up to
seventeen are tried. -/
def shortest (x : Binary64) : Decimal :=
  let b := x.basin
  let k := decimalExponent b.value b.den
  let atCount (count : Nat) : Option Decimal :=
    (onGrid? b (k - count + 1)).map fun q =>
      let ds := Nat.toDigits 10 q
      ⟨trimZeros ds, k + (ds.length : Int) - count⟩
  ((List.range 17).findSome? fun i => atCount (i + 1)).getD ⟨['0'], 0⟩

/-- The digits with the point at the place that the exponent says, zeros filling the gaps. -/
def Decimal.positional (d : Decimal) : List Char × List Char :=
  if d.exponent < 0 then
    (['0'], List.replicate (-d.exponent - 1).toNat '0' ++ d.digits)
  else
    let whole := d.exponent.toNat + 1
    (d.digits.take whole ++ List.replicate (whole - d.digits.length) '0', d.digits.drop whole)

/-- The digits of a number without an exponent, and without a point if it is whole. -/
def plain (x : Binary64) : String :=
  let (whole, fraction) := if x.isZero then (['0'], []) else x.shortest.positional
  String.ofList ((if x.negative then ['-'] else []) ++ whole ++
    (if fraction = [] then [] else '.' :: fraction))

end CodeGate.Binary64
