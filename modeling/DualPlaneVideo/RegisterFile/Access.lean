import DualPlaneVideo.RegisterFile.Basic
import DualPlaneVideo.Settings.Basic

/-!
# Control register access

Control programs and the bus name a control register by an opcode. Most registers belong to one
channel, and a load from the other channel is ignored. Channel B moreover cannot load the palette
through the two lower banks.
-/

namespace DualPlaneVideo

inductive ControlRegister where
  /-- An entry of the selected palette bank. -/
  | paletteEntry (offset : UInt8)
  | imageCoding
  | transparency
  | planeOrder
  | paletteBank
  | transparentColor (plane : Plane)
  | maskColor (plane : Plane)
  | yuvSeed (plane : Plane)
  | cursorPosition
  | cursorControl
  /-- A row of the cursor pattern; the value also holds the row number. -/
  | cursorPattern
  | matteCommand (index : Fin 8)
  | backdrop
  | mosaicFactor (plane : Plane)
  | contributionFactor (plane : Plane)
  deriving DecidableEq

namespace ControlRegister

/-- The register of an opcode from 0xC0 on. -/
def ofHighOpcode? : Nat → Option ControlRegister
  | 0xC0 => some .imageCoding
  | 0xC1 => some .transparency
  | 0xC2 => some .planeOrder
  | 0xC3 => some .paletteBank
  | 0xC4 => some (.transparentColor .a)
  | 0xC6 => some (.transparentColor .b)
  | 0xC7 => some (.maskColor .a)
  | 0xC9 => some (.maskColor .b)
  | 0xCA => some (.yuvSeed .a)
  | 0xCB => some (.yuvSeed .b)
  | 0xCD => some .cursorPosition
  | 0xCE => some .cursorControl
  | 0xCF => some .cursorPattern
  | 0xD0 => some (.matteCommand 0)
  | 0xD1 => some (.matteCommand 1)
  | 0xD2 => some (.matteCommand 2)
  | 0xD3 => some (.matteCommand 3)
  | 0xD4 => some (.matteCommand 4)
  | 0xD5 => some (.matteCommand 5)
  | 0xD6 => some (.matteCommand 6)
  | 0xD7 => some (.matteCommand 7)
  | 0xD8 => some .backdrop
  | 0xD9 => some (.mosaicFactor .a)
  | 0xDA => some (.mosaicFactor .b)
  | 0xDB => some (.contributionFactor .a)
  | 0xDC => some (.contributionFactor .b)
  | _ => none

/-- Opcodes below 0x80 are instructions of other kinds. -/
def ofOpcode? (opcode : UInt8) : Option ControlRegister :=
  if opcode < 0x80 then none
  else if opcode < 0xC0 then some (.paletteEntry (opcode - 0x80))
  else ofHighOpcode? opcode.toNat

/-- The channel that a register belongs to; `none` if both may load it. -/
def owner? : ControlRegister → Option Plane
  | imageCoding | transparency | planeOrder => some .a
  | cursorPosition | cursorControl | cursorPattern | backdrop => some .a
  | transparentColor plane | maskColor plane | yuvSeed plane => some plane
  | mosaicFactor plane | contributionFactor plane => some plane
  | paletteEntry _ | paletteBank | matteCommand _ => none

end ControlRegister

namespace RegisterFile

/-- The stored value; the cursor pattern does not read back. -/
def read? (registers : RegisterFile) : ControlRegister → Option Word
  | .paletteEntry offset =>
    some (registers.palette.read (Palette.indexInBank registers.paletteBank offset))
  | .imageCoding => some registers.imageCoding
  | .transparency => some registers.transparency
  | .planeOrder => some (if registers.frontPlane = .b then 1 else 0)
  | .paletteBank => some registers.paletteBank.toUInt32
  | .transparentColor plane => some (registers.transparentColor.get plane)
  | .maskColor plane => some (registers.maskColor.get plane)
  | .yuvSeed plane => some (registers.yuvSeed.get plane)
  | .cursorPosition => some registers.cursorPosition
  | .cursorControl => some registers.cursorControl
  | .cursorPattern => none
  | .matteCommand index => some registers.matteCommands[index]
  | .backdrop => some registers.backdrop.toUInt32
  | .mosaicFactor plane => some (registers.mosaicFactor.get plane)
  | .contributionFactor plane => some (registers.contributionFactor.get plane).toUInt32

/-- Takes a value into the image coding register unless the policy rejects it. -/
def setImageCoding (registers : RegisterFile) (value : Word) (policy : CodingPolicy) :
    RegisterFile :=
  if (ImageCoding.conflict? value).isSome && policy.isStrict then registers
  else { registers with imageCoding := value }

/-- Takes a value into a register, whoever asks. Each register keeps only the bits it has. -/
def store (registers : RegisterFile) (register : ControlRegister) (value : Word)
    (policy : CodingPolicy) : RegisterFile :=
  match register with
  | .paletteEntry offset =>
    let index := Palette.indexInBank registers.paletteBank offset
    { registers with palette := registers.palette.write index value }
  | .imageCoding => registers.setImageCoding value policy
  | .transparency => { registers with transparency := value }
  | .planeOrder => { registers with frontPlane := if value.bit 0 then .b else .a }
  | .paletteBank => { registers with paletteBank := (value.field 0 2).toUInt8 }
  | .transparentColor plane =>
    { registers with transparentColor := registers.transparentColor.set plane value }
  | .maskColor plane => { registers with maskColor := registers.maskColor.set plane value }
  | .yuvSeed plane => { registers with yuvSeed := registers.yuvSeed.set plane value }
  | .cursorPosition => { registers with cursorPosition := value }
  | .cursorControl => { registers with cursorControl := value }
  | .cursorPattern =>
    let row := value.field 16 4
    have : row < 16 := value.field_lt 16 4
    { registers with cursorPattern := registers.cursorPattern.set row value.toUInt16 }
  | .matteCommand index =>
    { registers with matteCommands := registers.matteCommands.set index value }
  | .backdrop => { registers with backdrop := (value.field 0 4).toUInt8 }
  | .mosaicFactor plane =>
    { registers with
      mosaicFactor := registers.mosaicFactor.set plane value
      parameters :=
        registers.parameters.set plane ((registers.parameters.get plane).loadHold value) }
  | .contributionFactor plane =>
    { registers with
      contributionFactor :=
        registers.contributionFactor.set plane (value.field 0 6).toUInt8 }

/-- The channel may load the register in the current state. -/
def admits (registers : RegisterFile) (channel : Plane) (register : ControlRegister) : Bool :=
  match register with
  | .paletteEntry _ => channel == .a || 2 ≤ registers.paletteBank
  | register => register.owner?.all (· == channel)

/-- A load from a channel's control program. Opcodes that name no register and loads that the
channel is not entitled to are ignored. -/
def load (registers : RegisterFile) (channel : Plane) (opcode : UInt8) (value : Word)
    (policy : CodingPolicy) : RegisterFile :=
  match ControlRegister.ofOpcode? opcode with
  | none => registers
  | some register =>
    if registers.admits channel register then registers.store register value policy else registers

end RegisterFile

end DualPlaneVideo
