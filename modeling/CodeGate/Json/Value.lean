import CodeGate.Binary64

/-!
# JSON values

A value is null, a Boolean, a number, a string, a list or an object. Objects hold their members in
ascending order of the keys, one member a key, so that two objects with the same members are the same
object: `Value.Canonical` says this of every object inside a value, and the operations on members
keep it.

Follows the values of `serde_json`.
-/

namespace CodeGate.Json

/-- A number: an integer that fits 64 bits, with or without a sign, or a binary64 number. -/
inductive Number where
  | integer (value : Int)
  | float (value : Binary64)
  deriving DecidableEq, Repr

/-- A JSON value. -/
inductive Value where
  | null
  | bool (value : Bool)
  | number (value : Number)
  | string (text : String)
  | list (items : List Value)
  | object (members : List (String × Value))
  deriving Repr, Inhabited

/-- The members of an object, in ascending order of their keys. -/
abbrev Members := List (String × Value)

namespace Members

/-- The value of the first member with the key. -/
def get? (key : String) : Members → Option Value
  | [] => none
  | (k, v) :: rest => if k = key then some v else get? key rest

/-- The members with the value at the key: it replaces the member there, or goes in front of the
first member with a greater key. -/
def insert (key : String) (value : Value) : Members → Members
  | [] => [(key, value)]
  | (k, v) :: rest =>
    if k < key then (k, v) :: insert key value rest
    else if k = key then (key, value) :: rest
    else (key, value) :: (k, v) :: rest

/-- The members without the one at the key. -/
def erase (key : String) (ms : Members) : Members :=
  ms.filter fun m => m.1 ≠ key

/-- Pairs taken in their order as members; of equal keys the last wins. -/
def ofList (pairs : List (String × Value)) : Members :=
  pairs.foldl (fun ms m => insert m.1 m.2 ms) []

end Members

namespace Value

mutual

/-- Two values are equal if they have the same form and equal parts. -/
def beq : Value → Value → Bool
  | null, null => true
  | bool a, bool b => a == b
  | number a, number b => a == b
  | string a, string b => a == b
  | list a, list b => beqItems a b
  | object a, object b => beqMembers a b
  | _, _ => false

/-- Equality of lists of values, item by item. -/
def beqItems : List Value → List Value → Bool
  | [], [] => true
  | a :: as, b :: bs => beq a b && beqItems as bs
  | _, _ => false

/-- Equality of rows of members, member by member. -/
def beqMembers : List (String × Value) → List (String × Value) → Bool
  | [], [] => true
  | (k, a) :: as, (l, b) :: bs => k == l && beq a b && beqMembers as bs
  | _, _ => false

end

mutual

theorem eq_of_beq : (a b : Value) → beq a b = true → a = b
  | null, b, h => by cases b <;> simp_all [beq]
  | bool _, b, h => by cases b <;> simp_all [beq]
  | number _, b, h => by cases b <;> simp_all [beq]
  | string _, b, h => by cases b <;> simp_all [beq]
  | list as, b, h => by
    cases b <;> simp only [beq, Bool.false_eq_true] at h
    exact congrArg list (eq_of_beqItems _ _ h)
  | object as, b, h => by
    cases b <;> simp only [beq, Bool.false_eq_true] at h
    exact congrArg object (eq_of_beqMembers _ _ h)

theorem eq_of_beqItems : (as bs : List Value) → beqItems as bs = true → as = bs
  | [], bs, h => by cases bs <;> simp_all [beqItems]
  | a :: as, bs, h => by
    cases bs <;> simp only [beqItems, Bool.false_eq_true, Bool.and_eq_true] at h
    rw [eq_of_beq _ _ h.1, eq_of_beqItems _ _ h.2]

theorem eq_of_beqMembers : (as bs : List (String × Value)) → beqMembers as bs = true → as = bs
  | [], bs, h => by cases bs <;> simp_all [beqMembers]
  | (k, a) :: as, bs, h => by
    cases bs <;> simp only [beqMembers, Bool.false_eq_true, Bool.and_eq_true, beq_iff_eq] at h
    next b bs => obtain ⟨⟨rfl, hv⟩, hr⟩ := h; rw [eq_of_beq _ _ hv, eq_of_beqMembers _ _ hr]

end

mutual

theorem beq_refl : (a : Value) → beq a a = true
  | null => rfl
  | bool _ => by simp [beq]
  | number _ => by simp [beq]
  | string _ => by simp [beq]
  | list as => by simpa [beq] using beqItems_refl as
  | object as => by simpa [beq] using beqMembers_refl as

theorem beqItems_refl : (as : List Value) → beqItems as as = true
  | [] => rfl
  | a :: as => by simp [beqItems, beq_refl a, beqItems_refl as]

theorem beqMembers_refl : (as : List (String × Value)) → beqMembers as as = true
  | [] => rfl
  | (k, a) :: as => by simp [beqMembers, beq_refl a, beqMembers_refl as]

end

instance : DecidableEq Value := fun a b =>
  if h : beq a b then isTrue (eq_of_beq a b h)
  else isFalse fun e => h (e ▸ beq_refl a)

/-- The empty object. -/
def empty : Value := object []

/-- Whether the value is an object. -/
def isObject : Value → Bool
  | object _ => true
  | _ => false

/-- The members of an object; every other value has none. -/
def members : Value → Members
  | object ms => ms
  | _ => []

mutual

/-- A value is canonical if the keys of every object inside it ascend strictly. -/
def Canonical : Value → Prop
  | list items => CanonicalItems items
  | object ms => (ms.map Prod.fst).Pairwise (· < ·) ∧ CanonicalMembers ms
  | _ => True

/-- Every value of the list is canonical. -/
def CanonicalItems : List Value → Prop
  | [] => True
  | v :: vs => Canonical v ∧ CanonicalItems vs

/-- Every value of the members is canonical. -/
def CanonicalMembers : List (String × Value) → Prop
  | [] => True
  | (_, v) :: ms => Canonical v ∧ CanonicalMembers ms

end

end Value

end CodeGate.Json
