import DualPlaneVideo.Color
import DualPlaneVideo.Cursor.Registers

/-!
# Cursor blink

The cursor alternates between an on and an off phase. Periods count in fifths of a second, and the
timer counts fields. An off period of zero keeps the cursor on, and an on period is never shorter
than one unit.
-/

namespace DualPlaneVideo

inductive BlinkPhase where
  | on
  | off
  deriving DecidableEq

structure Blink where
  phase : BlinkPhase
  /-- Fields since the phase began. -/
  fields : Nat
  deriving DecidableEq

namespace Blink

def start : Blink := ⟨.on, 0⟩

instance : Inhabited Blink := ⟨start⟩

/-- The fields in a fifth of a second. -/
def fieldsPerUnit (sixtyHz : Bool) : Nat := if sixtyHz then 12 else 10

/-- The length of a phase in units. -/
def period (control : Word) : BlinkPhase → Nat
  | .on => max (CursorControl.onPeriod control) 1
  | .off => CursorControl.offPeriod control

def next : BlinkPhase → BlinkPhase
  | .on => .off
  | .off => .on

/-- The timer after one more field. -/
def nextField (blink : Blink) (control : Word) (sixtyHz : Bool) : Blink :=
  if CursorControl.offPeriod control = 0 then start
  else if period control blink.phase * fieldsPerUnit sixtyHz ≤ blink.fields + 1 then
    ⟨next blink.phase, 0⟩
  else { blink with fields := blink.fields + 1 }

/-- The color that the cursor has in the current phase; `none` while it is hidden. -/
def color? (blink : Blink) (control : Word) : Option Color :=
  match blink.phase with
  | .on => some (.ofCode (CursorControl.colorCode control))
  | .off =>
    if CursorControl.blinksToComplement control then
      some (.ofCode (CursorControl.colorCode control ^^^ 7))
    else none

end Blink

end DualPlaneVideo
