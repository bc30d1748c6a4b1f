import CodeGate.Text.Hex

/-!
# Tables of code points

What a standard says about characters is a table: runs of code points, in ascending order, each with what
holds for the characters in it. A table is written as text, one entry for each run: its first and its last
code point in hexadecimal with a hyphen between them, or one code point alone, and behind a colon what is
said about them.
-/

namespace CodeGate.Text

/-- A run of code points with something said about them. -/
structure Run (α : Type) where
  first : Nat
  last : Nat
  value : α

/-- Runs of code points in ascending order. -/
abbrev Table (α : Type) := Array (Run α)

namespace Table

variable {α : Type}

/-- The part of a text before the first of a character, and the part behind it. -/
def cutAt (mark : Char) (cs : List Char) : List Char × List Char :=
  let front := cs.takeWhile (· ≠ mark)
  (front, cs.drop (front.length + 1))

/-- The run that an entry is about. -/
def runOf (read : List Char → α) (entry : List Char) : Run α :=
  let (codes, said) := cutAt ':' entry
  let (first, last) := cutAt '-' codes
  ⟨hexNumber first, hexNumber (if last = [] then first else last), read said⟩

/-- The table that is written in lines. -/
def ofLines (read : List Char → α) (lines : List String) : Table α :=
  (lines.flatMap fun line => (line.toList.splitOn ' ').map (runOf read)).toArray

/-- The run with a code point among those at the places from `low` to before `high`. -/
def search (t : Table α) (n low high : Nat) : Option (Run α) :=
  if low < high then
    let middle := (low + high) / 2
    match t[middle]? with
    | none => none
    | some run =>
      if n < run.first then search t n low middle
      else if run.last < n then search t n (middle + 1) high
      else some run
  else none
termination_by high - low

/-- The run that a code point is in. -/
def find? (t : Table α) (n : Nat) : Option (Run α) :=
  search t n 0 t.size

/-- What is said about a code point. -/
def value? (t : Table α) (n : Nat) : Option α :=
  (find? t n).map Run.value

/-- Whether a code point is in one of the runs. -/
def covers (t : Table α) (n : Nat) : Bool :=
  (find? t n).isSome

end Table

/-- The table of the code points that a property holds for. -/
abbrev CodeSet := Table Unit

/-- The set of code points that is written in lines. -/
def CodeSet.ofLines (lines : List String) : CodeSet :=
  Table.ofLines (fun _ => ()) lines

/-- What takes the place of the characters of a run: in a run of pairs the first of each pair gives way
to the second; otherwise code points that are told for the first character of the run, and if it is only
one, the characters behind the first go to those behind that one. -/
inductive Change where
  | paired
  | codes (codes : List Nat)

/-- The change that is written in an entry: a plus sign for pairs, or code points with full stops
between them. -/
def Change.read (cs : List Char) : Change :=
  if cs = ['+'] then paired
  else if cs = [] then codes []
  else codes ((cs.splitOn '.').map hexNumber)

/-- What takes the place of a code point of a run. -/
def Change.apply (run : Run Change) (n : Nat) : List Nat :=
  match run.value with
  | paired => if (n - run.first) % 2 = 0 then [n + 1] else [n]
  | codes [first] => [first + (n - run.first)]
  | codes cs => cs

/-- What takes the place of a code point in a table of changes; outside its runs nothing changes. -/
def Change.of (t : Table Change) (n : Nat) : List Nat :=
  match t.find? n with
  | some run => apply run n
  | none => [n]

end CodeGate.Text
