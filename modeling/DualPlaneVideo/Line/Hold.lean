import DualPlaneVideo.Color

/-!
# Pixel hold

Pixel hold lets every pixel of a line repeat the first one of its period. The line is overwritten
from left to right in place; the first pixel of a period never changes, so it is still there when
the rest of the period copies it.
-/

namespace DualPlaneVideo

/-- The period in line pixels of a hold factor, which counts pixels of normal resolution. -/
def holdPeriod (factor : UInt8) : Nat := 2 * max factor.toNat 1

/-- Copies the first pixel of its period to place `x`. -/
def holdPixel (period : Nat) (line : Array Color) (x : Nat) : Array Color :=
  if x % period = 0 then line else line.setIfInBounds x (line.getD (x - x % period) .black)

/-- The line after pixel hold. A period of one pixel at normal resolution changes nothing. -/
def holdLine (factor : UInt8) (line : Array Color) : Array Color :=
  if holdPeriod factor = 2 then line
  else Nat.fold line.size (fun x _ held ↦ holdPixel (holdPeriod factor) held x) line

end DualPlaneVideo
