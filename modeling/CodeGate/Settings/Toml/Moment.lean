/-!
# Moments in time

A date, a time of day, or both, and then perhaps the distance from universal time. A moment is kept as
the text that it is written as again: with a capital letter between date and time, and without zeros at
the end of a fraction.

Follows TOML files as sources of `config`.
-/

namespace CodeGate.Settings.Toml

/-- So many decimal digits at the front of a text, as a number, and the text behind them. -/
def digits? (count : Nat) (cs : List Char) : Option (Nat × List Char) :=
  let ds := cs.take count
  if ds.length = count ∧ ds.all Char.isDigit then
    some (ds.foldl (fun n c => n * 10 + (c.toNat - 48)) 0, cs.drop count)
  else none

/-- The text behind a character that has to be there. -/
def behind? (c : Char) : List Char → Option (List Char)
  | d :: cs => if c = d then some cs else none
  | [] => none

/-- The number of days of a month. -/
def daysIn (year month : Nat) : Nat :=
  if month = 2 then
    if year % 4 = 0 ∧ (year % 100 ≠ 0 ∨ year % 400 = 0) then 29 else 28
  else if month = 4 ∨ month = 6 ∨ month = 9 ∨ month = 11 then 30
  else 31

/-- Reads a date. -/
def date? (cs : List Char) : Option (List Char × List Char) := do
  let (year, r) ← digits? 4 cs
  let r ← behind? '-' r
  let (month, r) ← digits? 2 r
  let r ← behind? '-' r
  let (day, r) ← digits? 2 r
  if 1 ≤ month ∧ month ≤ 12 ∧ 1 ≤ day ∧ day ≤ daysIn year month then some (cs.take 10, r) else none

/-- Reads a fraction of a second, of which nine digits count. -/
def fraction? : List Char → Option (List Char × List Char)
  | '.' :: cs =>
    let ds := cs.takeWhile Char.isDigit
    if ds = [] then none
    else
      let kept := ((ds.take 9).reverse.dropWhile (· = '0')).reverse
      some (if kept = [] then [] else '.' :: kept, cs.drop ds.length)
  | cs => some ([], cs)

/-- Reads a time of day. -/
def time? (cs : List Char) : Option (List Char × List Char) := do
  let (hour, r) ← digits? 2 cs
  let r ← behind? ':' r
  let (minute, r) ← digits? 2 r
  let r ← behind? ':' r
  let (second, r) ← digits? 2 r
  let (fraction, r) ← fraction? r
  if hour ≤ 23 ∧ minute ≤ 59 ∧ second ≤ 60 then some (cs.take 8 ++ fraction, r) else none

/-- The distance from universal time that a text stands for. No distance is written with a plus. -/
def offset? : List Char → Option (List Char)
  | [] => some []
  | ['Z'] | ['z'] => some ['Z']
  | sign :: cs => do
    let (hour, r) ← digits? 2 cs
    let r ← behind? ':' r
    let (minute, r) ← digits? 2 r
    if (sign = '+' ∨ sign = '-') ∧ hour ≤ 23 ∧ minute ≤ 59 ∧ r = [] then
      some ((if hour = 0 ∧ minute = 0 then '+' else sign) :: cs)
    else none

/-- The moment that a word stands for. -/
def moment? (cs : List Char) : Option (List Char) :=
  match date? cs with
  | some (date, []) => some date
  | some (date, mark :: r) =>
    if mark = 'T' ∨ mark = 't' ∨ mark = ' ' then do
      let (time, r) ← time? r
      let offset ← offset? r
      some (date ++ 'T' :: (time ++ offset))
    else none
  | none =>
    match time? cs with
    | some (time, []) => some time
    | _ => none

end CodeGate.Settings.Toml
