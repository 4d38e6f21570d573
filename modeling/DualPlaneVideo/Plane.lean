/-!
# Image planes

The display shows two image planes, `a` and `b`. Each has a control channel, a palette half and a
source stream of its own, so most state comes in pairs.
-/

namespace DualPlaneVideo

inductive Plane where
  | a
  | b
  deriving DecidableEq, Inhabited

namespace Plane

def other : Plane → Plane
  | a => b
  | b => a

def letter : Plane → String
  | a => "A"
  | b => "B"

@[simp] theorem other_other (plane : Plane) : plane.other.other = plane := by
  cases plane <;> rfl

@[simp] theorem other_ne (plane : Plane) : plane.other ≠ plane := by
  cases plane <;> decide

theorem eq_other_of_ne {plane target : Plane} (h : plane ≠ target) : plane = target.other := by
  cases plane <;> cases target <;> simp_all [other]

theorem forall_iff {p : Plane → Prop} : (∀ plane, p plane) ↔ p a ∧ p b := by
  constructor
  · intro h
    exact ⟨h a, h b⟩
  · intro h plane
    cases plane with
    | a => exact h.1
    | b => exact h.2

instance (p : Plane → Prop) [DecidablePred p] : Decidable (∀ plane, p plane) :=
  decidable_of_iff (p a ∧ p b) forall_iff.symm

end Plane

/-- One value for each plane. -/
@[ext] structure PerPlane (α : Type) where
  a : α
  b : α
  deriving DecidableEq

namespace PerPlane

variable {α β : Type}

def both (value : α) : PerPlane α := ⟨value, value⟩

def ofFn (f : Plane → α) : PerPlane α := ⟨f .a, f .b⟩

def get (pair : PerPlane α) : Plane → α
  | .a => pair.a
  | .b => pair.b

def set (pair : PerPlane α) (plane : Plane) (value : α) : PerPlane α :=
  match plane with
  | .a => { pair with a := value }
  | .b => { pair with b := value }

def map (f : α → β) (pair : PerPlane α) : PerPlane β := ⟨f pair.a, f pair.b⟩

/-- Plane `a` before plane `b`. -/
def toList (pair : PerPlane α) : List α := [pair.a, pair.b]

instance [Inhabited α] : Inhabited (PerPlane α) := ⟨both default⟩

@[simp] theorem get_both (value : α) (plane : Plane) : (both value).get plane = value := by
  cases plane <;> rfl

@[simp] theorem get_ofFn (f : Plane → α) (plane : Plane) : (ofFn f).get plane = f plane := by
  cases plane <;> rfl

@[simp] theorem get_map (f : α → β) (pair : PerPlane α) (plane : Plane) :
    (pair.map f).get plane = f (pair.get plane) := by
  cases plane <;> rfl

@[simp] theorem get_set_self (pair : PerPlane α) (plane : Plane) (value : α) :
    (pair.set plane value).get plane = value := by
  cases plane <;> rfl

theorem get_set_of_ne (pair : PerPlane α) {plane target : Plane} (h : plane ≠ target) (value : α) :
    (pair.set target value).get plane = pair.get plane := by
  cases plane <;> cases target <;> simp_all [get, set]

end PerPlane

end DualPlaneVideo
