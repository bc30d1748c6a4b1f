import CodeGate.Settings.Toml.Moment
import CodeGate.Settings.Toml.Scalar

/-!
# TOML documents

A document is a row of lines: headers, which open a table, and assignments, which put a value into the
table that is open. A table is opened by one header at most, and no value is put in a place twice.

Follows TOML files as sources of `config`.
-/

namespace CodeGate.Settings.Toml

/-- How a table came about: by a header of its own, by a header of a table inside it, or by keys with
points. -/
inductive TableKind where
  | header
  | implied
  | dotted
  deriving DecidableEq, Repr

/-- What is at a key while a document is read; the tables of an array come in reverse. -/
inductive Item where
  | value (value : Content)
  | table (kind : TableKind) (members : List (String × Item))
  | tables (items : List (List (String × Item)))
  deriving Inhabited

/-- The items of a table with their keys. -/
abbrev Items := List (String × Item)

namespace Items

/-- The item at a key. -/
def get? (key : String) (items : Items) : Option Item :=
  (items.find? fun m => m.1 = key).map Prod.snd

/-- The items with one at a key, in place of the one there or at the end. -/
def put (key : String) (item : Item) : Items → Items
  | [] => [(key, item)]
  | (k, i) :: rest => if k = key then (key, item) :: rest else (k, i) :: put key item rest

/-- The items with the table at the end of a path changed. Tables that are missing come about, and an
array of tables stands for its last one. -/
def alter (change : Items → Option Items) : List String → Items → Option Items
  | [], items => change items
  | key :: keys, items =>
    match get? key items with
    | none => (alter change keys []).map fun inner => put key (.table .implied inner) items
    | some (.value _) => none
    | some (.table kind inner) => (alter change keys inner).map fun inner => put key (.table kind inner) items
    | some (.tables []) => none
    | some (.tables (last :: others)) =>
      (alter change keys last).map fun last => put key (.tables (last :: others)) items

/-- The items with a new table at a key, for a header of one. -/
def openTable (key : String) (items : Items) : Option Items :=
  match get? key items with
  | none => some (put key (.table .header []) items)
  | some (.table .implied inner) => some (put key (.table .header inner) items)
  | _ => none

/-- The items with one more table in the array at a key, for a header of an array. -/
def openElement (key : String) (items : Items) : Option Items :=
  match get? key items with
  | none => some (put key (.tables [[]]) items)
  | some (.tables ts) => some (put key (.tables ([] :: ts)) items)
  | _ => none

/-- The items with a value at the end of a path of keys with points. Only tables that came about in
this way are extended. -/
def assign (value : Content) : List String → Items → Option Items
  | [], _ => none
  | [key], items => if (get? key items).isNone then some (put key (.value value) items) else none
  | key :: keys, items =>
    let isLast := keys.length = 1
    match get? key items with
    | none => (assign value keys []).map fun inner => put key (.table .dotted inner) items
    | some (.table .dotted inner) =>
      (assign value keys inner).map fun inner => put key (.table .dotted inner) items
    | some (.table .implied inner) =>
      if isLast then none
      else (assign value keys inner).map fun inner => put key (.table .implied inner) items
    | some (.tables (last :: others)) =>
      if isLast then none
      else (assign value keys last).map fun last => put key (.tables (last :: others)) items
    | _ => none

end Items

mutual

/-- The value of an item. -/
def Item.content : Item → Content
  | .value v => v
  | .table _ items => .table (membersOf items)
  | .tables ts => .list (tablesOf ts).reverse

/-- The values of items with their keys. -/
def membersOf : List (String × Item) → List (String × Content)
  | [] => []
  | (k, i) :: rest => (k, i.content) :: membersOf rest

/-- The values of the tables of an array. -/
def tablesOf : List (List (String × Item)) → List Content
  | [] => []
  | t :: ts => .table (membersOf t) :: tablesOf ts

end

/-- The text behind the white space at its front. -/
def skipSpaces (cs : List Char) : List Char := cs.dropWhile isSpace

/-- Passes over white space, line breaks and comments. -/
def skipLines (inComment : Bool) : List Char → Option (List Char)
  | [] => some []
  | '\r' :: '\n' :: cs => skipLines false cs
  | c :: cs =>
    if c = '\n' then skipLines false cs
    else if inComment then if isPlain c then skipLines true cs else none
    else if isSpace c then skipLines false cs
    else if c = '#' then skipLines true cs
    else some (c :: cs)

/-- Passes over the end of a line, where only a comment may stand. -/
def endLine (cs : List Char) : Option (List Char) :=
  let rest := match skipSpaces cs with
    | '#' :: r => r.dropWhile isPlain
    | r => r
  match rest with
  | [] => some []
  | '\n' :: r => some r
  | '\r' :: '\n' :: r => some r
  | _ => none

/-- The characters of keys without quotes. -/
def isKeyChar (c : Char) : Bool := c.isAlphanum || c = '_' || c = '-'

/-- Reads one key. -/
def simpleKey : Scan String := fun cs =>
  let word := cs.takeWhile isKeyChar
  if word = [] then lineString cs else some (String.ofList word, cs.drop word.length)

/-- Reads keys with points between them, at most `n + 1`; those read so far come in reverse. -/
def keysFrom : (n : Nat) → List String → Scan (List String)
  | n, done, cs => do
    let (key, r) ← simpleKey cs
    match n, skipSpaces r with
    | n + 1, '.' :: r => keysFrom n (key :: done) (skipSpaces r)
    | _, _ => some ((key :: done).reverse, r)

/-- The number of keys, and of lists and tables in one line, that may stand one in another. -/
def maxDepth : Nat := 79

/-- Reads keys with points between them. -/
def keys : Scan (List String) := fun cs =>
  (keysFrom cs.length [] cs).filter fun (path, _) => path.length ≤ maxDepth

/-- The characters of values that are one word. -/
def isWordChar (c : Char) : Bool :=
  c.isAlphanum || c = '_' || c = '-' || c = '+' || c = '.' || c = ':'

/-- The word at the front of a text; between a date and a time one space may stand. -/
def wordOf (cs : List Char) : List Char :=
  let word := cs.takeWhile isWordChar
  match date? word, cs.drop word.length with
  | some (_, []), ' ' :: r =>
    let more := r.takeWhile isWordChar
    if (time? more).isSome then word ++ ' ' :: more else word
  | _, _ => word

/-- The value that a word stands for. -/
def wordValue? (word : List Char) : Option Content :=
  if word = "true".toList then some (.scalar (.bool true))
  else if word = "false".toList then some (.scalar (.bool false))
  else
    match integer? word with
    | some n => some (.scalar (.integer n))
    | none =>
      match float? word with
      | some x => some (.scalar (.float x))
      | none => (moment? word).map fun m => .scalar (.text (String.ofList m))

/-- Reads the values of a list behind its bracket, at most `n` of them; those read so far come in
reverse. -/
def listFrom (value : Scan Content) : (n : Nat) → List Content → Scan (List Content)
  | 0, _, _ => none
  | n + 1, done, cs => do
    match ← skipLines false cs with
    | ']' :: r => some (done.reverse, r)
    | r =>
      let (v, r) ← value r
      match ← skipLines false r with
      | ',' :: r => listFrom value n (v :: done) r
      | ']' :: r => some ((v :: done).reverse, r)
      | _ => none

/-- Reads keys, an equals sign and a value. -/
def pair (value : Scan Content) : Scan (List String × Content) := fun cs => do
  let (path, r) ← keys cs
  let r ← behind? '=' (skipSpaces r)
  let (v, r) ← value (skipSpaces r)
  some ((path, v), r)

/-- Reads the pairs of a table in one line behind its brace, at most `n` of them. -/
def pairsFrom (value : Scan Content) : (n : Nat) → Items → Scan Items
  | 0, _, _ => none
  | n + 1, done, cs => do
    let ((path, v), r) ← pair value (skipSpaces cs)
    let done ← Items.assign v path done
    match skipSpaces r with
    | ',' :: r => pairsFrom value n done r
    | '\x7d' :: r => some (done, r)
    | _ => none

/-- Reads a value in which so many lists and tables may stand one in another. -/
def value : (depth : Nat) → Scan Content
  | depth, cs =>
    match cs with
    | '"' :: _ => (string cs).map fun (s, r) => (.scalar (.text s), r)
    | '\'' :: _ => (string cs).map fun (s, r) => (.scalar (.text s), r)
    | '[' :: r =>
      match depth with
      | 0 => none
      | depth + 1 => (listFrom (value depth) (r.length + 1) [] r).map fun (vs, r) => (.list vs, r)
    | '\x7b' :: r =>
      match depth with
      | 0 => none
      | depth + 1 =>
        match skipSpaces r with
        | '\x7d' :: r => some (.table [], r)
        | r => (pairsFrom (value depth) (r.length + 1) [] r).map fun (items, r) => (.table (membersOf items), r)
    | _ =>
      let word := wordOf cs
      (wordValue? word).map fun v => (v, cs.drop word.length)

/-- Reads the keys of a header and its closing brackets. -/
def header (closing : List Char) (cs : List Char) : Option (List String × List Char) := do
  let (path, r) ← keys (skipSpaces cs)
  let r := skipSpaces r
  if closing.isPrefixOf r then some (path, r.drop closing.length) else none

/-- Reads one line into a document: the path of the open table and the items of the root. -/
def line (opened : List String) (root : Items) (cs : List Char) : Option (List String × Items × List Char) :=
  match cs with
  | '[' :: '[' :: r => do
    let (path, r) ← header [']', ']'] r
    let root ← Items.alter (Items.openElement (path.getLast?.getD "")) path.dropLast root
    some (path, root, r)
  | '[' :: r => do
    let (path, r) ← header [']'] r
    let root ← Items.alter (Items.openTable (path.getLast?.getD "")) path.dropLast root
    some (path, root, r)
  | cs => do
    let ((path, v), r) ← pair (value maxDepth) cs
    let root ← Items.alter (Items.assign v path) opened root
    some (opened, root, r)

/-- Reads the lines of a document, at most `n` of them. -/
def linesFrom : (n : Nat) → List String → Items → List Char → Option Items
  | n, opened, root, cs => do
    match n, ← skipLines false cs with
    | _, [] => some root
    | 0, _ => none
    | n + 1, r =>
      let (opened, root, r) ← line opened root r
      let r ← endLine r
      linesFrom n opened root r

/-- The members of the root of the document in a text; a mark of the byte order may stand in front. -/
def read? (text : String) : Option (List (String × Content)) :=
  let cs := match text.toList with
    | '\uFEFF' :: cs => cs
    | cs => cs
  (linesFrom (cs.length + 1) [] [] cs).map membersOf

end CodeGate.Settings.Toml
