import DualPlaneVideo.Cursor.Blink
import Mathlib.Tactic.Common

/-!
# The blink cycle

Under a constant control register with an off period the timer runs in a cycle: all fields of the
on phase, then all fields of the off phase. The state after any number of fields is therefore a
function of their remainder in the cycle.
-/

namespace DualPlaneVideo

/-- The color in which the cursor shows in its on phase. -/
def CursorControl.ownColor (control : Word) : Color := .ofCode (colorCode control)

/-- The color in which it may show in its off phase. -/
def CursorControl.complementColor (control : Word) : Color := .ofCode (colorCode control ^^^ 7)

/-- Blue is lit in just one of a code and its complement. -/
theorem CursorControl.complementColor_ne_ownColor (control : Word) :
    complementColor control ≠ ownColor control := by
  have hlevel : ∀ full lit : Bool,
      (if lit then (if full then 255 else 128) else 0 : UInt8) = 0 ↔ lit = false := by decide
  have hlit (code : UInt8) : (Color.ofCode code).blue = 0 ↔ code.toNat.testBit 0 = false :=
    hlevel (code.toNat.testBit 3) _
  intro hcolor
  have hdark := hlit (colorCode control ^^^ 7)
  rw [← complementColor, hcolor, ownColor, hlit, UInt8.toNat_xor, Nat.testBit_xor] at hdark
  cases hbit : (colorCode control).toNat.testBit 0 <;> simp [hbit] at hdark

namespace Blink

variable {blink : Blink} {control : Word} {sixtyHz : Bool}

/-- The fields of an on phase. -/
def onFields (control : Word) (sixtyHz : Bool) : Nat :=
  fieldsPerUnit sixtyHz * max 1 (CursorControl.onPeriod control)

/-- The fields of an on phase and the off phase after it. -/
def cycleFields (control : Word) (sixtyHz : Bool) : Nat :=
  fieldsPerUnit sixtyHz *
    (max 1 (CursorControl.onPeriod control) + CursorControl.offPeriod control)

/-- The timer so many fields into a cycle. -/
def inCycle (control : Word) (sixtyHz : Bool) (fields : Nat) : Blink :=
  if fields < onFields control sixtyHz then ⟨.on, fields⟩
  else ⟨.off, fields - onFields control sixtyHz⟩

/-- The timer so many fields after its start. -/
def scheduled (control : Word) (sixtyHz : Bool) (fields : Nat) : Blink :=
  inCycle control sixtyHz (fields % cycleFields control sixtyHz)

theorem fieldsPerUnit_pos (sixtyHz : Bool) : 0 < fieldsPerUnit sixtyHz := by
  cases sixtyHz <;> decide

theorem onFields_pos (control : Word) (sixtyHz : Bool) : 0 < onFields control sixtyHz :=
  Nat.mul_pos (fieldsPerUnit_pos sixtyHz) (Nat.le_max_left _ _)

theorem cycleFields_eq (control : Word) (sixtyHz : Bool) :
    cycleFields control sixtyHz = onFields control sixtyHz +
      fieldsPerUnit sixtyHz * CursorControl.offPeriod control :=
  Nat.mul_add _ _ _

theorem offFields_pos (hoff : CursorControl.offPeriod control ≠ 0) (sixtyHz : Bool) :
    0 < fieldsPerUnit sixtyHz * CursorControl.offPeriod control :=
  Nat.mul_pos (fieldsPerUnit_pos sixtyHz) (Nat.pos_of_ne_zero hoff)

theorem period_mul_on (control : Word) (sixtyHz : Bool) :
    period control .on * fieldsPerUnit sixtyHz = onFields control sixtyHz := by
  rw [period, onFields, Nat.mul_comm, Nat.max_comm]

theorem period_mul_off (control : Word) (sixtyHz : Bool) :
    period control .off * fieldsPerUnit sixtyHz =
      fieldsPerUnit sixtyHz * CursorControl.offPeriod control :=
  Nat.mul_comm _ _

/-! ## One field -/

theorem nextField_of_offPeriod_eq_zero (hoff : CursorControl.offPeriod control = 0) :
    blink.nextField control sixtyHz = start := by
  rw [nextField, if_pos hoff]

theorem nextField_inCycle (hoff : CursorControl.offPeriod control ≠ 0) {fields : Nat}
    (hfields : fields < cycleFields control sixtyHz) :
    (inCycle control sixtyHz fields).nextField control sixtyHz =
      inCycle control sixtyHz ((fields + 1) % cycleFields control sixtyHz) := by
  have hoffFields := offFields_pos hoff sixtyHz
  have honFields := onFields_pos control sixtyHz
  have hcycle := cycleFields_eq control sixtyHz
  by_cases hon : fields < onFields control sixtyHz
  · have hnext : (fields + 1) % cycleFields control sixtyHz = fields + 1 :=
      Nat.mod_eq_of_lt (by omega)
    rw [inCycle, if_pos hon, nextField, if_neg hoff, period_mul_on, hnext]
    by_cases hlast : onFields control sixtyHz ≤ fields + 1
    · have hfirst : fields + 1 - onFields control sixtyHz = 0 := by omega
      rw [if_pos hlast, inCycle, if_neg (by omega), hfirst]
      rfl
    · rw [if_neg hlast, inCycle, if_pos (by omega)]
  · rw [inCycle, if_neg hon, nextField, if_neg hoff, period_mul_off]
    by_cases hlast : fields + 1 = cycleFields control sixtyHz
    · rw [if_pos (by dsimp only; omega), hlast, Nat.mod_self, inCycle, if_pos honFields]
      rfl
    · have hnext : (fields + 1) % cycleFields control sixtyHz = fields + 1 :=
        Nat.mod_eq_of_lt (by omega)
      have hfields : fields - onFields control sixtyHz + 1 =
          fields + 1 - onFields control sixtyHz := by omega
      rw [if_neg (by dsimp only; omega), hnext, inCycle, if_neg (by omega), hfields]

/-! ## Any number of fields -/

theorem scheduled_zero (control : Word) (sixtyHz : Bool) : scheduled control sixtyHz 0 = start := by
  rw [scheduled, Nat.zero_mod, inCycle, if_pos (onFields_pos control sixtyHz)]
  rfl

theorem nextField_scheduled (hoff : CursorControl.offPeriod control ≠ 0) (fields : Nat) :
    (scheduled control sixtyHz fields).nextField control sixtyHz =
      scheduled control sixtyHz (fields + 1) := by
  have hcycle : 0 < cycleFields control sixtyHz := by
    rw [cycleFields_eq]
    exact Nat.add_pos_left (onFields_pos control sixtyHz) _
  rw [scheduled, nextField_inCycle hoff (Nat.mod_lt _ hcycle), Nat.mod_add_mod, ← scheduled]

/-! ## Colors -/

theorem color?_of_on (hphase : blink.phase = .on) :
    blink.color? control = some (CursorControl.ownColor control) := by
  rw [color?, hphase]
  rfl

theorem color?_of_off (control : Word) (hphase : blink.phase = .off) :
    blink.color? control = if CursorControl.blinksToComplement control then
      some (CursorControl.complementColor control) else none := by
  rw [color?, hphase]
  rfl

theorem phase_scheduled (control : Word) (sixtyHz : Bool) (fields : Nat) :
    (scheduled control sixtyHz fields).phase =
      if fields % cycleFields control sixtyHz < onFields control sixtyHz then .on else .off := by
  rw [scheduled, inCycle]
  split <;> rfl

end Blink

end DualPlaneVideo
