import CodeGate.Json.Reader

/-!
# The grammar of JSON

Which texts spell which values, apart from any reader. A text is taken for a tree first that keeps how it
is written: each character of a string is there as itself or by an escape, and the members of an object
stand in the order of the text. What the tree is worth depends on how a character that stands as itself
is put down; escapes say which character they mean.
-/

namespace CodeGate.Json

open CodeGate.Text

/-! ## Values as they are written -/

/-- A character of a string: as itself, or by an escape. -/
inductive Mark where
  | plain (c : Char)
  | escape (c : Char)
  deriving DecidableEq, Repr

/-- A value as a text writes it. -/
inductive Written where
  | null
  | bool (value : Bool)
  | number (value : Number)
  | string (marks : List Mark)
  | list (items : List Written)
  | object (members : List (List Mark × Written))
  deriving Repr

section Value

variable (put : Char → List Char)

/-- The characters of a mark, where `put` writes those that stand as themselves. -/
def Mark.chars : Mark → List Char
  | plain c => put c
  | escape c => [c]

/-- The text of the marks in a string. -/
def markText (marks : List Mark) : String := String.ofList (marks.flatMap (Mark.chars put))

mutual

/-- The value of a tree. Of members with equal keys the last wins. -/
def Written.value : Written → Value
  | null => .null
  | bool b => .bool b
  | number n => .number n
  | string marks => .string (markText put marks)
  | list items => .list (valueItems items)
  | object members => .object (Members.ofList (valueMembers members))

/-- The values of the items of a list. -/
def Written.valueItems : List Written → List Value
  | [] => []
  | t :: ts => t.value :: valueItems ts

/-- The keys and values of members, in their order. -/
def Written.valueMembers : List (List Mark × Written) → List (String × Value)
  | [] => []
  | (key, t) :: ms => (markText put key, t.value) :: valueMembers ms

end

theorem Written.valueItems_eq (ts : List Written) : valueItems put ts = ts.map (value put) := by
  induction ts with
  | nil => rfl
  | cons t ts ih => rw [valueItems, ih, List.map_cons]

/-- A member with its key and its value. -/
def memberValue (m : List Mark × Written) : String × Value := (markText put m.1, m.2.value put)

theorem Written.valueMembers_eq (ms : List (List Mark × Written)) :
    valueMembers put ms = ms.map (memberValue put) := by
  induction ms with
  | nil => rfl
  | cons m ms ih => rw [valueMembers, ih, List.map_cons, memberValue]

end Value

/-! ## What is read off the front -/

/-- A reader answers with a result and the glyphs behind it. -/
def Yields {α : Type} {bound : Nat} (r : Reading α bound) (a : α) (rest : List Glyph) : Prop :=
  ∃ p, r = .ok p ∧ p.value = a ∧ p.rest = rest

/-! ## Tokens -/

/-- White space. -/
def Blank (s : List Char) : Prop := ∀ c ∈ s, c ∈ [' ', '\n', '\t', '\r']

/-- Four hexadecimal digits. -/
inductive Hex : List Char → Nat → Prop where
  | four {a b c d : Char} {n : Nat} (number : hexFour? (.char a) (.char b) (.char c) (.char d) = some n) :
      Hex [a, b, c, d] n

/-- What stands behind the backslash of an escape: a letter, the number of a character, or the numbers of
the two halves of a surrogate pair. -/
inductive Escaped : List Char → Char → Prop where
  | letter {l c : Char} (stands : letterEscape? l = some c) : Escaped [l] c
  | number {s : List Char} {n : Nat} (digits : Hex s n) (notLow : isLowSurrogate n = false)
      (notHigh : isHighSurrogate n = false) : Escaped ('u' :: s) (Char.ofNat n)
  | pair {s t : List Char} {m n : Nat} (first : Hex s m) (high : isHighSurrogate m = true) (second : Hex t n)
      (low : isLowSurrogate n = true) :
      Escaped ('u' :: (s ++ '\\' :: 'u' :: t)) (Char.ofNat (0x10000 + (m - 0xD800) * 0x400 + (n - 0xDC00)))

/-- A character that may stand in a string as itself. -/
structure Ordinary (c : Char) : Prop where
  noQuote : c ≠ '"'
  noEscape : c ≠ '\\'
  noControl : 0x20 ≤ c.toNat

/-- A string between its quotes. -/
inductive StringSpelled : List Char → List Mark → Prop where
  | nil : StringSpelled [] []
  | plain {c : Char} {s : List Char} {marks : List Mark} (ordinary : Ordinary c) (rest : StringSpelled s marks) :
      StringSpelled (c :: s) (.plain c :: marks)
  | escape {a s : List Char} {c : Char} {marks : List Mark} (escaped : Escaped a c)
      (rest : StringSpelled s marks) : StringSpelled ('\\' :: (a ++ s)) (.escape c :: marks)

/-- A number: a text that is nothing but a number to the reader of numbers, which takes it in one go. -/
inductive NumberSpelled : List Char → Number → Prop where
  | positive {s : List Char} {n : Number} (read : Yields (unsignedNumber false (s.map .char)) n []) :
      NumberSpelled s n
  | negative {s : List Char} {n : Number} (read : Yields (unsignedNumber true (s.map .char)) n []) :
      NumberSpelled ('-' :: s) n

/-- A value that is no list and no object. -/
inductive ScalarSpelled : List Char → Written → Prop where
  | null : ScalarSpelled "null".toList .null
  | true : ScalarSpelled "true".toList (.bool .true)
  | false : ScalarSpelled "false".toList (.bool .false)
  | string {s : List Char} {marks : List Mark} (spelled : StringSpelled s marks) :
      ScalarSpelled ('"' :: (s ++ ['"'])) (.string marks)
  | number {s : List Char} {n : Number} (spelled : NumberSpelled s n) : ScalarSpelled s (.number n)

/-! ## Lists and objects -/

/-- What stands in front of an entry: white space, and a comma within if it is not the first. -/
inductive Gap : Bool → List Char → Prop where
  | first {b : List Char} (blank : Blank b) : Gap true b
  | later {b b' : List Char} (blank : Blank b) (blank' : Blank b') : Gap false (b ++ ',' :: b')

/-- Entries with commas between them, up to the closing bracket; `first` says that none stands before. -/
inductive Row {α : Type} (Entry : List Char → α → Prop) : Bool → List Char → List α → Prop where
  | stop {first : Bool} {b : List Char} (blank : Blank b) : Row Entry first b []
  | more {first : Bool} {b s r : List Char} {a : α} {as : List α} (gap : Gap first b) (entry : Entry s a)
      (tail : Row Entry false r as) : Row Entry first (b ++ (s ++ r)) (a :: as)

section Layer

variable (Inner : List Char → Written → Prop)

/-- A member: a key, a colon and a value. -/
inductive MemberSpelled : List Char → List Mark × Written → Prop where
  | mk {k b b' s : List Char} {key : List Mark} {t : Written} (spelled : StringSpelled k key) (blank : Blank b)
      (blank' : Blank b') (value : Inner s t) :
      MemberSpelled ('"' :: (k ++ '"' :: (b ++ ':' :: (b' ++ s)))) (key, t)

/-- A value in which the given ones may stand. -/
inductive Layer : List Char → Written → Prop where
  | scalar {s : List Char} {t : Written} (spelled : ScalarSpelled s t) : Layer s t
  | list {s : List Char} {ts : List Written} (row : Row Inner true s ts) : Layer ('[' :: (s ++ [']'])) (.list ts)
  | object {s : List Char} {ms : List (List Mark × Written)} (row : Row (MemberSpelled Inner) true s ms) :
      Layer ('\x7b' :: (s ++ ['\x7d'])) (.object ms)

end Layer

/-- A value in which so many lists and objects may stand one in another. -/
def Spelled : Nat → List Char → Written → Prop
  | 0 => ScalarSpelled
  | depth + 1 => Layer (Spelled depth)

/-- A whole text: one value with white space around it. -/
inductive Document : List Char → Written → Prop where
  | mk {b s b' : List Char} {t : Written} (blank : Blank b) (value : Spelled maxDepth s t) (blank' : Blank b') :
      Document (b ++ (s ++ b')) t

end CodeGate.Json
