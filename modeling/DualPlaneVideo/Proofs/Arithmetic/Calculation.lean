import Mathlib.Data.List.Basic

/-!
# Calculations in bounded integer types

The hardware calculates in integer types of fixed widths. Here an addition, a subtraction or a
multiplication is given by the type in which it is carried out and by its exact result; it overflows
if the type has no such number. Each part of a tick has a list of the calculations that it carries
out, those aside that are meant to wrap around. A list says which calculations there are, and not in
what order or how often they are carried out.
-/

namespace DualPlaneVideo

inductive IntType where
  | uint8
  | uint16
  | uint32
  /-- An index or a length. Some memories are small enough for 32 bits. -/
  | usize
  | int16
  | int32
  deriving DecidableEq

namespace IntType

def least : IntType → Int
  | uint8 | uint16 | uint32 | usize => 0
  | int16 => -0x8000
  | int32 => -0x80000000

def greatest : IntType → Int
  | uint8 => 0xFF
  | uint16 => 0xFFFF
  | uint32 | usize => 0xFFFFFFFF
  | int16 => 0x7FFF
  | int32 => 0x7FFFFFFF

end IntType

structure Calculation where
  type : IntType
  /-- The exact result. -/
  result : Int
  deriving DecidableEq

namespace Calculation

/-- The type has the result. -/
def Fits (calculation : Calculation) : Prop :=
  calculation.type.least ≤ calculation.result ∧ calculation.result ≤ calculation.type.greatest

instance (calculation : Calculation) : Decidable calculation.Fits :=
  inferInstanceAs (Decidable (_ ∧ _))

variable {result : Int}

@[simp]
theorem fits_uint8 : Fits ⟨.uint8, result⟩ ↔ 0 ≤ result ∧ result ≤ 0xFF := Iff.rfl

@[simp]
theorem fits_uint16 : Fits ⟨.uint16, result⟩ ↔ 0 ≤ result ∧ result ≤ 0xFFFF := Iff.rfl

@[simp]
theorem fits_uint32 : Fits ⟨.uint32, result⟩ ↔ 0 ≤ result ∧ result ≤ 0xFFFFFFFF := Iff.rfl

@[simp]
theorem fits_usize : Fits ⟨.usize, result⟩ ↔ 0 ≤ result ∧ result ≤ 0xFFFFFFFF := Iff.rfl

@[simp]
theorem fits_int16 : Fits ⟨.int16, result⟩ ↔ -0x8000 ≤ result ∧ result ≤ 0x7FFF := Iff.rfl

@[simp]
theorem fits_int32 : Fits ⟨.int32, result⟩ ↔ -0x80000000 ≤ result ∧ result ≤ 0x7FFFFFFF :=
  Iff.rfl

end Calculation

/-- None of the calculations overflows. -/
def AllFit (calculations : List Calculation) : Prop :=
  ∀ calculation ∈ calculations, calculation.Fits

section AllFit

variable {α : Type} {calculation : Calculation} {calculations others : List Calculation}

@[simp]
theorem allFit_nil : AllFit [] := fun _ h ↦ nomatch h

@[simp]
theorem allFit_cons :
    AllFit (calculation :: calculations) ↔ calculation.Fits ∧ AllFit calculations :=
  List.forall_mem_cons

@[simp]
theorem allFit_append : AllFit (calculations ++ others) ↔ AllFit calculations ∧ AllFit others :=
  List.forall_mem_append

@[simp]
theorem allFit_map {items : List α} {f : α → Calculation} :
    AllFit (items.map f) ↔ ∀ item ∈ items, (f item).Fits :=
  List.forall_mem_map

@[simp]
theorem allFit_flatMap {items : List α} {f : α → List Calculation} :
    AllFit (items.flatMap f) ↔ ∀ item ∈ items, AllFit (f item) := by
  constructor
  · intro h item hitem calculation hcalculation
    exact h calculation (List.mem_flatMap.mpr ⟨item, hitem, hcalculation⟩)
  · intro h calculation hcalculation
    obtain ⟨item, hitem, hmem⟩ := List.mem_flatMap.mp hcalculation
    exact h item hitem calculation hmem

end AllFit

/-- A calculation of the list that leaves the range of its type. -/
def Overflows (calculations : List Calculation) (calculation : Calculation) : Prop :=
  calculation ∈ calculations ∧ ¬ calculation.Fits

section Overflows

variable {calculation other : Calculation} {calculations others : List Calculation}

theorem AllFit.not_overflows (h : AllFit calculations) : ¬ Overflows calculations calculation :=
  fun ⟨hmem, hfits⟩ ↦ hfits (h calculation hmem)

theorem allFit_iff_not_overflows :
    AllFit calculations ↔ ∀ calculation, ¬ Overflows calculations calculation := by
  constructor
  · exact fun h _ ↦ h.not_overflows
  · intro h calculation hmem
    by_contra hfits
    exact h calculation ⟨hmem, hfits⟩

theorem overflows_singleton :
    Overflows [other] calculation ↔ calculation = other ∧ ¬ other.Fits := by
  rw [Overflows, List.mem_singleton]
  constructor
  · rintro ⟨rfl, hfits⟩
    exact ⟨rfl, hfits⟩
  · rintro ⟨rfl, hfits⟩
    exact ⟨rfl, hfits⟩

theorem overflows_append :
    Overflows (calculations ++ others) calculation ↔
      Overflows calculations calculation ∨ Overflows others calculation := by
  rw [Overflows, List.mem_append, or_and_right]
  exact Iff.rfl

/-- Calculations that all fit make no difference before others. -/
theorem AllFit.overflows_append (h : AllFit calculations) :
    Overflows (calculations ++ others) calculation ↔ Overflows others calculation := by
  rw [DualPlaneVideo.overflows_append, or_iff_right h.not_overflows]

end Overflows

end DualPlaneVideo
