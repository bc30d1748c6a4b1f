import CodeGate.Proofs.Json.Shapes
import CodeGate.Wire.Records
import Mathlib.Data.List.Forall2
import Mathlib.Data.List.Nodup
import Mathlib.Data.List.Pairwise

/-!
# Slots and the fields they fill

A slot takes the values of one kind. A record is told by its fields, each with the value it is written as and
the change that reading this value makes; the changes of different fields do not disturb each other, so the
record comes out whole in whichever order its members stand, and whatever stands among them.
-/

namespace CodeGate.Wire

open CodeGate.Text CodeGate.Json

variable {α β : Type} {slot : Slot α} {name : String}

/-! ## Slots -/

/-- A slot takes the values of one kind, each for the change that is made with what it stands for. -/
structure Reads (slot : Slot α) (kind : β → Value) (put : β → α → α) : Prop where
  iff {depth : Nat} {x : List Glyph} {f : α → α} {rest : List Glyph} :
    Yields (slot.read depth x) f rest ↔ ∃ b, Yields (value depth x) (kind b) rest ∧ f = put b

theorem reads_text (put : String → α → α) : Reads (textSlot name put) .string put where
  iff {depth x f rest} := by simp only [textSlot, yields_map, yields_text depth]

theorem reads_texts (put : List String → α → α) : Reads (textsSlot name put) texts put where
  iff {depth x f rest} := by simp only [textsSlot, yields_map, yields_listOf_text, texts]

theorem reads_object (put : Members → α → α) : Reads (objectSlot name put) .object put where
  iff {depth x f rest} := by simp only [objectSlot, yields_map, yields_object]

/-- The value of a string that may be missing. -/
def textOrNull (t? : Option String) : Value := (t?.map Value.string).getD .null

theorem reads_optionalText (put : Option String → α → α) : Reads (optionalTextSlot name put) textOrNull put where
  iff {depth x f rest} := by simp only [optionalTextSlot, yields_map, yields_orNull_text depth, textOrNull]

theorem reads_optionalNatural (put : Nat → α → α) :
    Reads (optionalNaturalSlot name put) (fun n : Nat => .number (.integer n)) put where
  iff {depth x f rest} := by simp only [optionalNaturalSlot, yields_map, yields_natural64 depth]

/-! ## Fields -/

/-- A field of a record: its name, the value it is written as, and the change that reading this value makes. -/
structure Field (α : Type) where
  name : String
  value : Value
  change : α → α

/-- A field as a member. -/
def Field.member (field : Field α) : String × Value := (field.name, field.value)

/-- A slot has the name of the field and takes its value for its change; whatever it takes is a value. -/
structure Fits (slot : Slot α) (field : Field α) : Prop where
  named : slot.name = field.name
  takes {depth : Nat} {x rest : List Glyph} (found : Yields (value depth x) field.value rest) :
    Yields (slot.read depth x) field.change rest
  values : slot.TakesValues

theorem Reads.fits {kind : β → Value} {put : β → α → α} (reads : Reads slot kind put) (b : β) :
    Fits slot ⟨slot.name, kind b, put b⟩ where
  named := rfl
  takes found := reads.iff.2 ⟨b, found, rfl⟩
  values found := by
    obtain ⟨b, found, -⟩ := reads.iff.1 found
    exact ⟨kind b, found⟩

section Fits

variable {slots : List (Slot α)} {fields : List (Field α)} (fits : List.Forall₂ Fits slots fields)
include fits

theorem names_of_fits : slots.map Slot.name = fields.map Field.name := by
  induction fits with
  | nil => rfl
  | cons here _ ih => rw [List.map_cons, List.map_cons, here.named, ih]

theorem exists_fits_of_mem (mem : slot ∈ slots) : ∃ field ∈ fields, Fits slot field := by
  induction fits with
  | nil => cases mem
  | cons here _ ih =>
    rcases List.mem_cons.1 mem with rfl | mem
    · exact ⟨_, List.mem_cons_self, here⟩
    · obtain ⟨field, there, fits⟩ := ih mem
      exact ⟨field, List.mem_cons_of_mem _ there, fits⟩

end Fits

/-- The fields of a record, one for each slot of its shape, with changes that may be made in any order and together
make the record of a blank one. -/
structure Filled (shape : Shape α) (fields : List (Field α)) (record : α) : Prop where
  fits : List.Forall₂ Fits shape.slots fields
  distinct : (fields.map Field.name).Nodup
  apart : fields.Pairwise fun f g => ∀ r, f.change (g.change r) = g.change (f.change r)
  whole : fields.foldl (fun r field => field.change r) shape.blank = record

/-- The change of the field with the name, and none if there is no such field. -/
def change (fields : List (Field α)) (name : String) : α → α :=
  ((fields.find? (·.name = name)).map Field.change).getD id

theorem change_of_notMem {fields : List (Field α)} (h : name ∉ fields.map Field.name) : change fields name = id := by
  have none : fields.find? (·.name = name) = none := by simpa using h
  rw [change, none]
  rfl

namespace Filled

variable {shape : Shape α} {fields : List (Field α)} {record : α} (filled : Filled shape fields record)
include filled

theorem names : shape.names = fields.map Field.name := names_of_fits filled.fits

theorem change_of_mem {field : Field α} (h : field ∈ fields) : change fields field.name = field.change := by
  cases found : fields.find? (·.name = field.name) with
  | none =>
    have absent := List.find?_eq_none.1 found field h
    simp at absent
  | some other =>
    have same : other.name = field.name := by simpa using List.find?_some found
    obtain rfl := List.inj_on_of_nodup_map filled.distinct (List.mem_of_find?_eq_some found) h same
    rw [change, found]
    rfl

theorem change_comm (m n : String) (r : α) :
    change fields m (change fields n r) = change fields n (change fields m r) := by
  have symm : Std.Symm fun f g : Field α => ∀ r, f.change (g.change r) = g.change (f.change r) :=
    ⟨fun _ _ same r => (same r).symm⟩
  have all := filled.apart.forall_of_forall fun _ _ _ => rfl
  unfold change
  cases first : fields.find? (·.name = m) with
  | none => rfl
  | some f =>
    cases second : fields.find? (·.name = n) with
    | none => rfl
    | some g => exact all (List.mem_of_find?_eq_some first) (List.mem_of_find?_eq_some second) r

/-- Names that are those of the fields, in any order and among others, make the record of a blank one. -/
theorem foldl_change {names : List String}
    (same : (names.filter (· ∈ fields.map Field.name)).Perm (fields.map Field.name)) :
    names.foldl (fun r name => change fields name r) shape.blank = record := by
  have others : ∀ r, ∀ name ∈ names, change fields name r =
      if decide (name ∈ fields.map Field.name) = true then change fields name r else r := by
    intro r name _
    split
    · rfl
    · next other => rw [change_of_notMem (by simpa using other), id]
  calc
    _ = (names.filter (· ∈ fields.map Field.name)).foldl (fun r name => change fields name r) shape.blank := by
      rw [List.foldl_filter]
      exact List.foldl_ext _ _ _ others
    _ = (fields.map Field.name).foldl (fun r name => change fields name r) shape.blank :=
      same.foldl_eq' (fun m _ n _ r => filled.change_comm n m r) shape.blank
    _ = fields.foldl (fun r field => field.change r) shape.blank := by
      rw [List.foldl_map]
      exact List.foldl_ext _ _ _ fun r field h => congrFun (filled.change_of_mem h) r
    _ = record := filled.whole

end Filled

end CodeGate.Wire
