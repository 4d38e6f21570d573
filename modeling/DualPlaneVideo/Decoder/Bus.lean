import DualPlaneVideo.Decoder.Basic

/-!
# Bus access to the decoder

The bus reads and writes control registers by opcode, palette entries, matte commands and cursor
rows by number, and system registers by offset. Writes keep the low 24 bits and are never refused
for the channel's sake: they count as loads from the channel that owns the register.
-/

namespace DualPlaneVideo

namespace Decoder

/-- The channel in whose name the bus loads a register. -/
def busChannel (opcode : UInt8) : Plane :=
  ((ControlRegister.ofOpcode? opcode).bind ControlRegister.owner?).getD .a

def readRegister (decoder : Decoder) (opcode : UInt8) : Option Word :=
  (ControlRegister.ofOpcode? opcode).bind decoder.registers.read?

def writeRegister (decoder : Decoder) (opcode : UInt8) (value : Word) : Decoder :=
  { decoder with
    registers := decoder.registers.load (busChannel opcode) opcode value.low24
      decoder.settings.policy }

def paletteEntry (decoder : Decoder) (index : Nat) : Word :=
  decoder.registers.palette.read index

def setPaletteEntry (decoder : Decoder) (index : Nat) (value : Word) : Decoder :=
  { decoder with registers := { decoder.registers with
    palette := decoder.registers.palette.write index value } }

/-- Numbers past the table wrap. -/
def matteIndex (index : Nat) : Fin 8 :=
  ⟨index % 8, Nat.mod_lt _ (by decide)⟩

def matteCommand (decoder : Decoder) (index : Nat) : Word :=
  decoder.registers.matteCommands[matteIndex index]

def setMatteCommand (decoder : Decoder) (index : Nat) (value : Word) : Decoder :=
  { decoder with registers := { decoder.registers with
    matteCommands := decoder.registers.matteCommands.set (matteIndex index) value.low24
      (matteIndex index).isLt } }

/-- Numbers past the pattern wrap. -/
def patternIndex (row : Nat) : Fin 16 :=
  ⟨row % 16, Nat.mod_lt _ (by decide)⟩

def cursorRow (decoder : Decoder) (row : Nat) : UInt16 :=
  decoder.registers.cursorPattern[patternIndex row]

def setCursorRow (decoder : Decoder) (row : Nat) (pattern : UInt16) : Decoder :=
  { decoder with registers := { decoder.registers with
    cursorPattern := decoder.registers.cursorPattern.set (patternIndex row) pattern
      (patternIndex row).isLt } }

/-- A plane's display parameters as the operand that loads them. -/
def displayParameters (decoder : Decoder) (plane : Plane) : Word :=
  (decoder.registers.parameters.get plane).operand

/-- The display is enabled and the current line belongs to the picture. -/
def displayActive (decoder : Decoder) : Bool :=
  decoder.registers.system.displayEnabled && decoder.line < decoder.format.activeLines

def setSystem (decoder : Decoder) (system : SystemRegisters) : Decoder :=
  { decoder with registers := { decoder.registers with system } }

/-- Reading the status register of channel B clears the interrupt flags; offsets without a register
read as zero. -/
def readSystem (decoder : Decoder) (offset : Word) : UInt16 × Decoder :=
  let system := decoder.registers.system
  match SystemRegister.ofOffset? offset with
  | some (.controlStatus .a) => (if decoder.displayActive then 0x80 else 0, decoder)
  | some (.controlStatus .b) =>
    (system.interruptStatus, decoder.setSystem { system with interruptFlags := .both false })
  | some (.displayCommand plane) => (system.displayCommand.get plane, decoder)
  | some (.displayDecoder plane) => (system.displayDecoder.get plane, decoder)
  | none => (0, decoder)

/-- Writes to offsets without a register are ignored. -/
def writeSystem (decoder : Decoder) (offset : Word) (value : UInt16) : Decoder :=
  match SystemRegister.ofOffset? offset with
  | some register => decoder.setSystem (decoder.registers.system.write register value)
  | none => decoder

end Decoder

end DualPlaneVideo
