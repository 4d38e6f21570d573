import DualPlaneVideo.Color
import DualPlaneVideo.Plane

/-!
# Transparency

For each plane a four-bit condition decides which pixels let the layer behind show through: a test
and a polarity bit that inverts it. The transparency register holds both conditions and the bit
that mixes the planes instead of stacking them.
-/

namespace DualPlaneVideo

/-- The two matte flags of a plane. -/
@[ext] structure MatteFlags where
  zero : Bool
  one : Bool
  deriving DecidableEq, Inhabited

namespace MatteFlags

def clear : MatteFlags := ⟨false, false⟩

/-- Flag one when `index` holds, flag zero otherwise. -/
def get (flags : MatteFlags) (index : Bool) : Bool :=
  if index then flags.one else flags.zero

def set (flags : MatteFlags) (index value : Bool) : MatteFlags :=
  if index then { flags with one := value } else { flags with zero := value }

end MatteFlags

inductive TransparencyTest where
  | always
  | colorKey
  | transparencyBit
  | matteFlag (index : Bool)
  | matteFlagOrColorKey (index : Bool)
  | reserved
  deriving DecidableEq, Inhabited

def TransparencyTest.ofCode : Nat → TransparencyTest
  | 0 => .always
  | 1 => .colorKey
  | 2 => .transparencyBit
  | 3 => .matteFlag false
  | 4 => .matteFlag true
  | 5 => .matteFlagOrColorKey false
  | 6 => .matteFlagOrColorKey true
  | _ => .reserved

structure TransparencyCondition where
  test : TransparencyTest
  inverted : Bool
  deriving DecidableEq, Inhabited

namespace TransparencyControl

/-- The lowest bit of a plane's condition in the transparency register. -/
def conditionOffset : Plane → Nat
  | .a => 0
  | .b => 8

def condition (register : Word) (plane : Plane) : TransparencyCondition where
  test := .ofCode (register.field (conditionOffset plane) 3)
  inverted := register.bit (conditionOffset plane + 3)

def mixes (register : Word) : Bool := register.bit 23

end TransparencyControl

/-- What decides a plane's transparency along one line: its condition and the two color registers
of the color key. -/
structure TransparencyRule where
  condition : TransparencyCondition
  transparentColor : Word
  maskColor : Word

namespace TransparencyRule

/-- The bits that take part in a color key comparison: the upper six of each channel. -/
def comparedBits : Word := 0xFCFCFC

/-- The pixel agrees with the transparent color in every compared bit that the mask leaves. -/
def matchesColor (rule : TransparencyRule) (pixel : Color) : Bool :=
  (pixel.toRgb24 ^^^ rule.transparentColor) &&& (comparedBits &&& ~~~rule.maskColor) == 0

/-- The outcome of the test before its polarity; the reserved test has none. -/
def holds? (rule : TransparencyRule) (pixel : Color) (flags : MatteFlags) : Option Bool :=
  match rule.condition.test with
  | .always => some true
  | .colorKey => some (rule.matchesColor pixel)
  | .transparencyBit => some pixel.isTransparent
  | .matteFlag index => some (flags.get index)
  | .matteFlagOrColorKey index => some (flags.get index || rule.matchesColor pixel)
  | .reserved => none

/-- Makes the pixel transparent or opaque as the condition says. The reserved test leaves the pixel
alone. -/
def resolve (rule : TransparencyRule) (pixel : Color) (flags : MatteFlags) : Color :=
  match rule.holds? pixel flags with
  | none => pixel
  | some outcome => pixel.withAlpha (if outcome != rule.condition.inverted then 0 else 255)

end TransparencyRule

end DualPlaneVideo
