import CodeGate.Text.Hex

/-!
# Numeric hosts

An IPv4 address is up to four numbers with full stops between them, each decimal, octal behind a zero or
hexadecimal behind `0x`; the last one fills the bytes that are left. An IPv6 address is eight groups of four
hexadecimal digits, of which a run of zero groups may be left out once and the last two may be written
as an IPv4 address in decimal.

Follows the hosts that `url` reads.
-/

namespace CodeGate.Url.Numeric

open CodeGate.Text

/-- The value of digits in a base. -/
def ofDigits (base : Nat) (cs : List Char) : Nat :=
  cs.foldl (fun n c => n * base + (hexValue? c).getD 0) 0

/-- Whether a character is a digit of the base. -/
def isDigitOf (base : Nat) (c : Char) : Bool :=
  match hexValue? c with
  | some d => d < base
  | none => false

/-- The base that the front of a number announces, and its digits. -/
def baseAndDigits : List Char → Nat × List Char
  | '0' :: 'x' :: ds => (16, ds)
  | '0' :: 'X' :: ds => (16, ds)
  | '0' :: d :: ds => (8, d :: ds)
  | ds => (10, ds)

/-- The value of a number; behind a front alone there is zero. -/
def number? (cs : List Char) : Option Nat :=
  if cs = [] then none
  else
    let (base, ds) := baseAndDigits cs
    if ds.all (isDigitOf base) then some (ofDigits base ds) else none

/-- The parts between full stops, without an empty one at the end. -/
def parts (cs : List Char) : List (List Char) :=
  let ps := cs.splitOn '.'
  if ps.getLast? = some [] then ps.dropLast else ps

/-- Whether a domain name is meant as an IPv4 address: its last part is a number or has only decimal
digits. -/
def endsInNumber (cs : List Char) : Bool :=
  match (parts cs).getLast? with
  | none => false
  | some last => (last ≠ [] && last.all Char.isDigit) || (number? last).isSome

/-- The IPv4 address that a text stands for. -/
def ipv4? (cs : List Char) : Option Nat := do
  let ps := parts cs
  if 4 < ps.length then none
  else
    let ns ← ps.mapM number?
    let last ← ns.getLast?
    let front := ns.dropLast
    let bits := 8 * (4 - front.length)
    if 1 <<< bits ≤ last ∨ front.any (255 < ·) then none
    else some ((front.foldl (fun n part => n * 256 + part) 0) <<< bits + last)

/-- An IPv4 address as four decimal numbers. -/
def ipv4Text (n : Nat) : List Char :=
  List.intercalate ['.']
    [Nat.toDigits 10 (n / 16777216 % 256), Nat.toDigits 10 (n / 65536 % 256), Nat.toDigits 10 (n / 256 % 256),
      Nat.toDigits 10 (n % 256)]

/-- A number up to 255 in decimal without leading zeros. -/
def octet? (cs : List Char) : Option Nat :=
  if cs ≠ [] ∧ cs.all Char.isDigit ∧ (cs.length = 1 ∨ cs.head? ≠ some '0') ∧ ofDigits 10 cs ≤ 255 then
    some (ofDigits 10 cs)
  else none

/-- The two groups that an IPv4 address in decimal makes. -/
def tailGroups? (cs : List Char) : Option (List Nat) := do
  match ← (cs.splitOn '.').mapM octet? with
  | [a, b, c, d] => some [a * 256 + b, c * 256 + d]
  | _ => none

/-- A group of up to four hexadecimal digits. -/
def group? (cs : List Char) : Option Nat :=
  if cs ≠ [] ∧ cs.length ≤ 4 ∧ cs.all (isDigitOf 16) then some (ofDigits 16 cs) else none

/-- Groups with colons between them; the last one may be an IPv4 address. -/
def groups? (withTail : Bool) : List (List Char) → Option (List Nat)
  | [] => some []
  | [last] => if withTail ∧ last.contains '.' then tailGroups? last else (group? last).map ([·])
  | g :: gs => do
    let n ← group? g
    let ns ← groups? withTail gs
    some (n :: ns)

/-- The groups of one side of a doubled colon; there may be none. -/
def side? (withTail : Bool) (cs : List Char) : Option (List Nat) :=
  if cs = [] then some [] else groups? withTail (cs.splitOn ':')

/-- The text before and after the first doubled colon, if there is one. -/
def cutAtDoubleColon (before : List Char) : List Char → Option (List Char × List Char)
  | ':' :: ':' :: rest => some (before.reverse, rest)
  | c :: rest => cutAtDoubleColon (c :: before) rest
  | [] => none

/-- The eight groups of the IPv6 address that a text stands for. -/
def ipv6? (cs : List Char) : Option (List Nat) :=
  match cutAtDoubleColon [] cs with
  | none => do
    let ns ← groups? true (cs.splitOn ':')
    if ns.length = 8 then some ns else none
  | some (front, back) => do
    let a ← side? false front
    let b ← side? true back
    if a.length + b.length ≤ 7 then some (a ++ List.replicate (8 - a.length - b.length) 0 ++ b) else none

/-- The length of the run of zeros at the front. -/
def zeroRun (gs : List Nat) : Nat := (gs.takeWhile (· = 0)).length

/-- The place and length of the first of the longest runs of zeros. -/
def longestZeroRun (gs : List Nat) : Nat × Nat :=
  (List.range gs.length).foldl (fun best i =>
    let n := zeroRun (gs.drop i)
    if best.2 < n then (i, n) else best) (0, 0)

/-- Groups in hexadecimal with colons between them. -/
def groupsText (gs : List Nat) : List Char :=
  List.intercalate [':'] (gs.map (Nat.toDigits 16))

/-- An IPv6 address with its first longest run of zero groups left out, if it has two or more. -/
def ipv6Text (gs : List Nat) : List Char :=
  let (start, length) := longestZeroRun gs
  if 2 ≤ length then groupsText (gs.take start) ++ [':', ':'] ++ groupsText (gs.drop (start + length))
  else groupsText gs

end CodeGate.Url.Numeric
