import CodeGate.Binary64.Shortest
import CodeGate.Text.Lower
import CodeGate.Word

/-!
# Settings as a tree

Every source of settings is a row of values with the paths they belong at, and the sources are written
into one tree, one after another. Keys are in lower case. What is written later replaces what is there;
only tables are merged, key by key, and the table that comes of it has no origin. What is in a list stays as
its source has it.

Follows how `config` puts sources over each other. There the entries of one source have no order of their own;
here they are taken in the order in which they are written.
-/

namespace CodeGate.Settings

/-- Where a value comes from. -/
inductive Origin where
  | environment
  | file (path : String)
  deriving DecidableEq, Repr

/-- A number that need not be an integer. -/
inductive Fractional where
  | finite (x : Binary64)
  | infinite (negative : Bool)
  | undefined
  deriving DecidableEq, Repr

/-- The digits of a number, without an exponent. -/
def Fractional.text : Fractional → String
  | finite x => x.plain
  | infinite negative => if negative then "-inf" else "inf"
  | undefined => "NaN"

/-- A value without parts. -/
inductive Scalar where
  | null
  | bool (value : Bool)
  | integer (value : Int)
  | float (value : Fractional)
  | text (value : String)
  deriving DecidableEq, Repr

/-- What a file holds: a value without parts, a list, or a table. -/
inductive Content where
  | scalar (value : Scalar)
  | list (items : List Content)
  | table (members : List (String × Content))
  deriving Repr, Inhabited

/-- Pairs of which the last with a key counts. -/
def lastOfEach (pairs : List (String × Content)) : List (String × Content) :=
  pairs.foldl (fun done m => done.filter (·.1 ≠ m.1) ++ [m]) []

/-- The table of some pairs. -/
def Content.ofPairs (pairs : List (String × Content)) : Content := .table (lastOfEach pairs)

/-- Settings: a value without parts, a list, or a table of settings with their keys. What was made on the way
to other settings has no origin. -/
inductive Tree where
  | scalar (origin : Option Origin) (value : Scalar)
  | list (origin : Option Origin) (items : List Tree)
  | table (origin : Option Origin) (members : List (String × Tree))
  deriving Repr, Inhabited

/-- Pairs of keys and settings, one for a key. -/
abbrev Table := List (String × Tree)

namespace Table

/-- The settings at a key. -/
def get? (key : String) (t : Table) : Option Tree :=
  (t.find? fun m => m.1 = key).map Prod.snd

/-- The table with settings at a key, in place of those there or at the end. -/
def put (key : String) (value : Tree) : Table → Table
  | [] => [(key, value)]
  | (k, v) :: rest => if k = key then (key, value) :: rest else (k, v) :: put key value rest

end Table

/-- A step on the way to settings: the key of a table, or the place of an item in a list, which is
counted from the end if it is negative. -/
inductive Step where
  | key (name : String)
  | item (place : Int)
  deriving DecidableEq, Repr

namespace Tree

/-- The tree without any settings. -/
def empty : Tree := .table none []

/-- Settings that are not there. -/
def absent : Tree := .scalar none .null

/-- The members of a table; anything else has none. -/
def members : Tree → Table
  | table _ ms => ms
  | _ => []

/-- The items of a list; anything else has none. -/
def items : Tree → List Tree
  | list _ ts => ts
  | _ => []

/-- A table with other members; anything else becomes a table. -/
def withMembers (ms : Table) : Tree → Tree
  | table origin _ => table origin ms
  | _ => table none ms

/-- A list with other items; anything else becomes a list. -/
def withItems (ts : List Tree) : Tree → Tree
  | list origin _ => list origin ts
  | _ => list none ts

mutual

/-- The settings that a file holds. -/
def ofContent (origin : Origin) : Content → Tree
  | .scalar value => scalar (some origin) value
  | .list items => list (some origin) (ofItems origin items)
  | .table ms => table (some origin) (ofMembers origin ms)

/-- The settings in the items of a list. -/
def ofItems (origin : Origin) : List Content → List Tree
  | [] => []
  | c :: cs => ofContent origin c :: ofItems origin cs

/-- The settings in the members of a table. -/
def ofMembers (origin : Origin) : List (String × Content) → List (String × Tree)
  | [] => []
  | (k, c) :: ms => (k, ofContent origin c) :: ofMembers origin ms

end

mutual

/-- A tree with settings at a key of its root, which becomes a table if it is none. A table is merged
into what is there, key by key; an empty one makes a table only where nothing is. -/
def setKey (key : String) : (value : Tree) → (root : Tree) → Tree
  | table _ incoming, root =>
    let target := (Table.get? (Text.lower key) root.members).getD empty
    withMembers (Table.put (Text.lower key) (setMembers incoming target) root.members) root
  | value, root => withMembers (Table.put (Text.lower key) value root.members) root

/-- A tree with each of some members at its key. -/
def setMembers : (incoming : List (String × Tree)) → (root : Tree) → Tree
  | [], root => root
  | (k, v) :: rest, root => setMembers rest (setKey k v root)

end

/-- The index of an item of a list of so many. -/
def indexOf (place : Int) (count : Nat) : Nat :=
  if 0 ≤ place then place.toNat else count - (-place).toNat

/-- Items with a change made at an index; the list is made long enough for it. -/
def changeAt (change : Tree → Tree) (index : Nat) (ts : List Tree) : List Tree :=
  (ts ++ List.replicate (index + 1 - ts.length) absent).modify index change

/-- A tree with settings at the end of a path. -/
def set : (path : List Step) → (value : Tree) → (root : Tree) → Tree
  | [], value, _ => value
  | [.key name], value, root => setKey name value root
  | .key name :: path, value, root =>
    let target := (Table.get? (Text.lower name) root.members).getD absent
    withMembers (Table.put (Text.lower name) (set path value target) root.members) root
  | .item place :: path, value, root =>
    let ts := root.items
    withItems (changeAt (set path value) (indexOf place ts.length) ts) root

end Tree

namespace Step

/-- The characters of a key in a path. -/
def isKeyChar (c : Char) : Bool := c.isAlphanum || c = '_' || c = '-' || c = ' '

/-- A text without the blanks in front of it. -/
def dropBlanks (cs : List Char) : List Char := cs.dropWhile fun c => c = ' ' || c = '\t'

/-- The place between brackets, and the text behind them; blanks may stand around it. -/
def place? (cs : List Char) : Option (Int × List Char) :=
  let start := dropBlanks cs
  let (negative, r) := match start with
    | '-' :: r => (true, r)
    | r => (false, r)
  let digits := r.takeWhile Char.isDigit
  let magnitude : Int := digits.foldl (fun n c => n * 10 + (c.toNat - 48)) 0
  let place := if negative then -magnitude else magnitude
  match dropBlanks (r.drop digits.length) with
  | ']' :: rest => if digits ≠ [] ∧ Word.fitsSigned place then some (place, rest) else none
  | _ => none

/-- Reads the steps of a path behind its first key, at most `n` of them: a point and a key, or a place in
brackets. -/
def more? : (n : Nat) → List Char → Option (List Step)
  | _, [] => some []
  | 0, _ => none
  | n + 1, '.' :: cs =>
    let name := cs.takeWhile isKeyChar
    if name = [] then none
    else (more? n (cs.drop name.length)).map (.key (String.ofList name) :: ·)
  | n + 1, '[' :: cs => do
    let (place, rest) ← place? cs
    (more? n rest).map (.item place :: ·)
  | _, _ => none

/-- The path that a key stands for; a text that is no path is one key. -/
def pathOf (key : String) : List Step :=
  let cs := key.toList
  let name := cs.takeWhile isKeyChar
  let path? := if name = [] then none else more? cs.length (cs.drop name.length)
  match path? with
  | some path => .key (String.ofList name) :: path
  | none => [.key key]

end Step

/-- A source: its values in their order, each with its key. -/
abbrev Source := List (String × Tree)

/-- The tree with the values of a source written into it. -/
def Source.writeTo (source : Source) (root : Tree) : Tree :=
  source.foldl (fun t m => Tree.set (Step.pathOf m.1) m.2 t) root

end CodeGate.Settings
