import DualPlaneVideo.Word

/-!
# Display parameters

A plane's display parameters tell how its source is packed: the kind of image, the pixel depth,
which also fixes the horizontal resolution, and the repeat count. Pixel hold is loaded by a
register of its own.
-/

namespace DualPlaneVideo

inductive ImageKind where
  | normal
  | runLength
  | mosaic
  deriving DecidableEq, Inhabited

namespace ImageKind

def ofCode : Nat → ImageKind
  | 2 => runLength
  | 3 => mosaic
  | _ => normal

def code : ImageKind → Nat
  | normal => 0
  | runLength => 2
  | mosaic => 3

end ImageKind

inductive PixelDepth where
  | normal8
  | double4
  | high8
  deriving DecidableEq, Inhabited

namespace PixelDepth

/-- Every other code is reserved. -/
def ofCode? : Nat → Option PixelDepth
  | 0 => some normal8
  | 1 => some double4
  | 2 => some high8
  | _ => none

def code : PixelDepth → Nat
  | normal8 => 0
  | double4 => 1
  | high8 => 2

/-- Pixels are half as wide as at normal resolution. -/
def isDouble (depth : PixelDepth) : Bool := depth != normal8

theorem ofCode?_code (depth : PixelDepth) : ofCode? depth.code = some depth := by
  cases depth <;> rfl

end PixelDepth

structure DisplayParameters where
  kind : ImageKind
  pixelRepeat : UInt8
  depth : PixelDepth
  holdEnabled : Bool
  holdFactor : UInt8
  deriving DecidableEq

namespace DisplayParameters

def initial : DisplayParameters where
  kind := .normal
  pixelRepeat := 2
  depth := .normal8
  holdEnabled := false
  holdFactor := 0

instance : Inhabited DisplayParameters := ⟨initial⟩

/-- The pixel depth field of an operand. -/
def depthCode (operand : Word) : Nat := operand.field 8 2

/-- The parameters after an operand is loaded; `none` for the reserved pixel depth. Pixel hold
stays. -/
def load? (parameters : DisplayParameters) (operand : Word) : Option DisplayParameters :=
  (PixelDepth.ofCode? (depthCode operand)).map fun depth ↦
    { parameters with
      kind := .ofCode (operand.field 0 2)
      pixelRepeat := (2 <<< operand.field 2 2).toUInt8
      depth }

/-- The operand that loads these parameters. The repeat count is written as its logarithm less
one. -/
def operand (parameters : DisplayParameters) : Word :=
  (parameters.depth.code * 0x100 + (parameters.pixelRepeat.toNat.log2 - 1) * 4 +
    parameters.kind.code).toUInt32

/-- A pixel hold register holds the enable bit and, in its low byte, the factor. -/
def loadHold (parameters : DisplayParameters) (value : Word) : DisplayParameters :=
  { parameters with holdEnabled := value.bit 23, holdFactor := (value.field 0 8).toUInt8 }

end DisplayParameters

end DualPlaneVideo
