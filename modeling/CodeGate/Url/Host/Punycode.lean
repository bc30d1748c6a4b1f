/-!
# Punycode

A label with characters outside ASCII is written with its ASCII characters first and then, as digits
of base 36, the distances between the insertions that make the others. The weights of the digits adapt
to the distances seen so far.

Follows the hosts that `url` reads.
-/

namespace CodeGate.Url.Punycode

/-- A digit of base 36: the letters, then the decimal digits. -/
def digitChar (d : Nat) : Char :=
  if d < 26 then Char.ofNat (97 + d) else Char.ofNat (48 + d - 26)

/-- The value of a digit of base 36, of either case. -/
def digitValue? (c : Char) : Option Nat :=
  if 'a' ≤ c ∧ c ≤ 'z' then some (c.toNat - 97)
  else if 'A' ≤ c ∧ c ≤ 'Z' then some (c.toNat - 65)
  else if c.isDigit then some (c.toNat - 48 + 26)
  else none

/-- The threshold of the digit at a place, counted in steps of 36: from 1 to 26. -/
def threshold (place bias : Nat) : Nat :=
  max 1 (min 26 (place - bias))

/-- Divides a distance down to the range of one digit, counting 36 for each time. -/
def settle (distance bias : Nat) : Nat :=
  if 455 < distance then settle (distance / 35) (bias + 36)
  else bias + 36 * distance / (distance + 38)
termination_by distance
decreasing_by exact Nat.div_lt_self (by omega) (by omega)

/-- The bias after a distance has been written, with so many characters in place. -/
def adapt (distance count : Nat) (first : Bool) : Nat :=
  let d := if first then distance / 700 else distance / 2
  settle (d + d / count) 0

/-- The digits of a distance. -/
def digits (bias place q : Nat) : List Char :=
  let t := threshold place bias
  if q < t then [digitChar q]
  else digitChar (t + (q - t) % (36 - t)) :: digits bias (place + 36) ((q - t) / (36 - t))
termination_by q
decreasing_by
  have least : 1 ≤ threshold place bias := Nat.le_max_left _ _
  exact Nat.lt_of_le_of_lt (Nat.div_le_self _ _) (by omega)

/-- What has been written: the digits, the distance to the next insertion, the bias and the number of
characters in place. -/
structure Progress where
  written : List Char
  distance : Nat
  bias : Nat
  placed : Nat

/-- Looks at one character of the label while the insertions of the code point `n` are written. -/
def step (basic n : Nat) (p : Progress) (c : Char) : Progress :=
  if c.toNat < n then { p with distance := p.distance + 1 }
  else if c.toNat = n then
    { written := p.written ++ digits p.bias 36 p.distance
      distance := 0
      bias := adapt p.distance (p.placed + 1) (p.placed = basic)
      placed := p.placed + 1 }
  else p

/-- Writes the insertions of the code points, which ascend. -/
def insertions (label : List Char) (basic : Nat) : List Nat → Nat → Progress → Progress
  | [], _, p => p
  | m :: rest, n, p =>
    let p := label.foldl (step basic m) { p with distance := p.distance + (m - n) * (p.placed + 1) }
    insertions label basic rest (m + 1) { p with distance := p.distance + 1 }

/-- A label in Punycode. -/
def encode (label : List Char) : List Char :=
  let basic := label.filter (·.toNat < 128)
  let others := ((label.filter (128 ≤ ·.toNat)).map Char.toNat).mergeSort.eraseDups
  let start : Progress := ⟨[], 0, 72, basic.length⟩
  (if basic = [] then [] else basic ++ ['-']) ++ (insertions label basic.length others 128 start).written

/-- The distance at the front and the digits behind it. -/
def readDistance (bias place weight sum : Nat) : List Char → Option (Nat × List Char)
  | [] => none
  | c :: rest =>
    match digitValue? c with
    | none => none
    | some d =>
      if d < threshold place bias then some (sum + d * weight, rest)
      else readDistance bias (place + 36) (weight * (36 - threshold place bias)) (sum + d * weight) rest

theorem readDistance_shorter {bias place weight sum : Nat} {cs : List Char} {r : Nat × List Char}
    (found : readDistance bias place weight sum cs = some r) : r.2.length < cs.length := by
  induction cs generalizing place weight sum with
  | nil => simp [readDistance] at found
  | cons c cs ih =>
    unfold readDistance at found
    split at found
    · simp at found
    · split at found
      · simp at found
        simp [← found]
      · exact Nat.lt_succ_of_lt (ih found)

/-- Makes the insertions that the digits describe. -/
def readInsertions (label : List Char) (position n bias : Nat) (first : Bool) (cs : List Char) :
    Option (List Char) :=
  if cs = [] then some label
  else
    match hr : readDistance bias 36 1 0 cs with
    | none => none
    | some (distance, rest) =>
      let count := label.length + 1
      let total := position + distance
      let n := n + total / count
      if n < 0xD800 ∨ (0xE000 ≤ n ∧ n < 0x110000) then
        readInsertions (label.insertIdx (total % count) (Char.ofNat n)) (total % count + 1) n
          (adapt distance count first) false rest
      else none
termination_by cs.length
decreasing_by exact readDistance_shorter hr

/-- The characters before the last hyphen and those behind it. A hyphen at the front has nothing before
it and stays. -/
def cutAtLastHyphen (cs : List Char) : List Char × List Char :=
  let back := cs.reverse
  match back.dropWhile (· ≠ '-') with
  | [] | [_] => ([], cs)
  | _ :: front => (front.reverse, (back.takeWhile (· ≠ '-')).reverse)

/-- The label that a text in Punycode stands for. -/
def decode? (cs : List Char) : Option (List Char) :=
  let (basic, tail) := cutAtLastHyphen cs
  if basic.all (·.toNat < 128) then readInsertions basic 0 128 72 true tail else none

end CodeGate.Url.Punycode
