import DualPlaneVideo.Plane
import DualPlaneVideo.Word

/-!
# Matte commands

A matte command takes effect at a horizontal position of a line. It sets the contribution factor of
a plane, sets or clears one of the matte flags of the plane that runs it, does both, or ends the
matte for the rest of the line.
-/

namespace DualPlaneVideo

inductive MatteAction where
  | terminate
  | setFactor (plane : Plane)
  | setFlag (value : Bool)
  | setFactorAndFlag (plane : Plane) (value : Bool)
  /-- Does nothing, but still counts as a command. -/
  | reserved (code : Nat)
  deriving DecidableEq

def MatteAction.ofCode : Nat → MatteAction
  | 0x0 => .terminate
  | 0x4 => .setFactor .a
  | 0x6 => .setFactor .b
  | 0x8 => .setFlag false
  | 0x9 => .setFlag true
  | 0xC => .setFactorAndFlag .a false
  | 0xD => .setFactorAndFlag .a true
  | 0xE => .setFactorAndFlag .b false
  | 0xF => .setFactorAndFlag .b true
  | code => .reserved code

namespace MatteCommand

def action (command : Word) : MatteAction := .ofCode (command.field 20 4)

/-- Which of the two flags, and in a single matte which plane, the command is about. -/
def selector (command : Word) : Bool := command.bit 16

def factor (command : Word) : UInt8 := (command.field 10 6).toUInt8

/-- The position at normal resolution. -/
def position (command : Word) : Nat := command.field 1 9

end MatteCommand

end DualPlaneVideo
