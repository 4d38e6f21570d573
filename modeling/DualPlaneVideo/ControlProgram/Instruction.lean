import DualPlaneVideo.Failure
import DualPlaneVideo.RegisterFile.Access
import DualPlaneVideo.VideoRam

/-!
# Control program instructions

An instruction is a 32-bit word: an opcode byte and a 24-bit operand. The upper half of the opcode
tells the kind; from 0x80 on the opcode names the register to load. Addresses wrap inside video
memory.
-/

namespace DualPlaneVideo

inductive Instruction where
  | stop
  | noOperation
  /-- Sets where the display control area of the next line starts. -/
  | loadDisplayArea (address : Word) (thenStop : Bool)
  /-- Goes on at another address. -/
  | jump (address : Word)
  /-- Sets where the plane's image data are read from, and stops. -/
  | loadReadCursor (address : Word)
  | interrupt
  | loadParameters (operand : Word)
  | loadRegister (opcode : UInt8) (operand : Word)
  deriving DecidableEq

namespace Instruction

def ofWord (word : Word) : Instruction :=
  let operand := word.low24
  let address := wrapAddress operand
  match word.field 28 4 with
  | 0 => stop
  | 1 => noOperation
  | 2 => loadDisplayArea address false
  | 3 => loadDisplayArea address true
  | 4 => jump address
  | 5 => loadReadCursor address
  | 6 => interrupt
  | 7 => loadParameters operand
  | _ => loadRegister (word.field 24 8).toUInt8 operand

end Instruction

end DualPlaneVideo
