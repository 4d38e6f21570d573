import DualPlaneVideo.Plane
import DualPlaneVideo.Word

/-!
# Image coding

The image coding register selects how each plane's source bytes become pixels. Each plane has its
own table of four-bit codes. Some combinations of the two planes are not allowed; whether such a
value is still accepted is a matter of policy.
-/

namespace DualPlaneVideo

inductive CodingMethod where
  | off
  | clut8
  | clut7
  | clut77
  | clut4
  | dyuv
  | rgb555
  deriving DecidableEq, Inhabited

/-- The ways in which two coding methods can exclude each other. -/
inductive CodingConflict where
  | directColorNeedsPlaneAOff
  | widePaletteNeedsDeltaOrOff
  deriving DecidableEq

namespace CodingConflict

def rule : CodingConflict → String
  | directColorNeedsPlaneAOff => "plane B RGB555 requires plane A OFF"
  | widePaletteNeedsDeltaOrOff => "plane A CLUT8/CLUT7+7 requires plane B DYUV or OFF"

end CodingConflict

namespace ImageCoding

def methodOfCodeA : Nat → CodingMethod
  | 0x1 => .clut8
  | 0x3 => .clut7
  | 0x4 => .clut77
  | 0x5 => .dyuv
  | 0xB => .clut4
  | _ => .off

def methodOfCodeB : Nat → CodingMethod
  | 0x1 => .rgb555
  | 0x3 => .clut7
  | 0x5 => .dyuv
  | 0xB => .clut4
  | _ => .off

def method (register : Word) : Plane → CodingMethod
  | .a => methodOfCodeA (register.field 0 4)
  | .b => methodOfCodeB (register.field 8 4)

/-- Plane A in CLUT7+7 uses the upper palette half. -/
def highBank (register : Word) : Bool := register.bit 22

/-- Each plane has a matte of its own. -/
def twoMattes (register : Word) : Bool := register.bit 19

/-- Asks for external video in place of the backdrop, which is not available. -/
def externalVideo (register : Word) : Bool := register.bit 18

def conflict? (register : Word) : Option CodingConflict :=
  let a := method register .a
  let b := method register .b
  if b = .rgb555 ∧ a ≠ .off then some .directColorNeedsPlaneAOff
  else if (a = .clut8 ∨ a = .clut77) ∧ b ≠ .dyuv ∧ b ≠ .off then some .widePaletteNeedsDeltaOrOff
  else none

end ImageCoding

end DualPlaneVideo
