import DualPlaneVideo.Plane
import DualPlaneVideo.Word

/-!
# System registers

The bus reaches three 16-bit registers per channel: display command, control and status, and
display decoder. An interrupt flag per channel is reported by the status register of channel B.
Offsets repeat every 32 bytes, and odd ones select the register below.
-/

namespace DualPlaneVideo

inductive SystemRegister where
  | controlStatus (plane : Plane)
  | displayCommand (plane : Plane)
  | displayDecoder (plane : Plane)
  deriving DecidableEq

/-- The part of a bus offset that selects a register. -/
def registerOffset (offset : Word) : Nat := 2 * offset.field 1 4

def SystemRegister.ofOffset? (offset : Word) : Option SystemRegister :=
  match registerOffset offset with
  | 0x00 => some (.controlStatus .b)
  | 0x02 => some (.displayCommand .b)
  | 0x08 => some (.displayDecoder .b)
  | 0x10 => some (.controlStatus .a)
  | 0x12 => some (.displayCommand .a)
  | 0x18 => some (.displayDecoder .a)
  | _ => none

structure SystemRegisters where
  displayCommand : PerPlane UInt16
  controlStatus : PerPlane UInt16
  displayDecoder : PerPlane UInt16
  interruptFlags : PerPlane Bool
  deriving DecidableEq

namespace SystemRegisters

def zeroed : SystemRegisters where
  displayCommand := .both 0
  controlStatus := .both 0
  displayDecoder := .both 0
  interruptFlags := .both false

instance : Inhabited SystemRegisters := ⟨zeroed⟩

/-! The display format and the display enable bit live in the command register of channel A. -/

def displayEnabled (system : SystemRegisters) : Bool := system.displayCommand.a.toNat.testBit 15

def wideLine (system : SystemRegisters) : Bool := system.displayCommand.a.toNat.testBit 14

def sixtyHz (system : SystemRegisters) : Bool := system.displayCommand.a.toNat.testBit 13

def interlaced (system : SystemRegisters) : Bool := system.displayCommand.a.toNat.testBit 12

def initialAreaEnabled (system : SystemRegisters) (plane : Plane) : Bool :=
  (system.displayCommand.get plane).toNat.testBit 9

def displayAreaEnabled (system : SystemRegisters) (plane : Plane) : Bool :=
  (system.displayCommand.get plane).toNat.testBit 8

def interruptDisabled (system : SystemRegisters) (plane : Plane) : Bool :=
  (system.controlStatus.get plane).toNat.testBit 15

/-- The interrupt flags as a status register value: bit 2 for channel A and bit 1 for channel B. -/
def interruptStatus (system : SystemRegisters) : UInt16 :=
  (if system.interruptFlags.a then 4 else 0) + (if system.interruptFlags.b then 2 else 0)

def write (system : SystemRegisters) (register : SystemRegister) (value : UInt16) :
    SystemRegisters :=
  match register with
  | .controlStatus plane =>
    { system with controlStatus := system.controlStatus.set plane value }
  | .displayCommand plane =>
    { system with displayCommand := system.displayCommand.set plane value }
  | .displayDecoder plane =>
    { system with displayDecoder := system.displayDecoder.set plane value }

end SystemRegisters

end DualPlaneVideo
