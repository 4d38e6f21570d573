import DualPlaneVideo.ImageCoding
import DualPlaneVideo.Line.Source
import DualPlaneVideo.Palette

/-!
# Palette images

In the palette codings each pixel is a code that selects a palette entry. A code takes a byte, or,
in CLUT4, half a byte with the upper half first. Except in CLUT8 only seven bits of a code count,
and the plane decides which half of the palette they select from.
-/

namespace DualPlaneVideo

/-- How the pixel codes of a plane select palette entries. -/
inductive PaletteView where
  | whole
  | lowerHalf
  | upperHalf
  deriving DecidableEq

namespace PaletteView

def ofMethod (method : CodingMethod) (plane : Plane) (highBank : Bool) : PaletteView :=
  match method, plane with
  | .clut8, _ => whole
  | .clut77, .a => if highBank then upperHalf else lowerHalf
  | _, .a => lowerHalf
  | _, .b => upperHalf

def index (view : PaletteView) (code : UInt8) : Nat :=
  match view with
  | whole => code.toNat
  | lowerHalf => bitField code.toNat 0 7
  | upperHalf => 128 + bitField code.toNat 0 7

/-- The color of a code. -/
def color (view : PaletteView) (palette : Palette) (code : UInt8) : Color :=
  palette.color (view.index code)

end PaletteView

/-- How many source bytes hold the codes of a line. -/
def codeBytes (nibbles : Bool) (width : Nat) : Nat :=
  if nibbles then pairCount width else width

/-- The upper half of a byte before its lower half. -/
def nibblesOf (byte : UInt8) : List UInt8 := [byte >>> 4, byte &&& 0xF]

/-- A line of `width` pixel codes, one for each byte or half byte. -/
def decodeIndexed (palette : Palette) (view : PaletteView) (nibbles : Bool) (width : Nat)
    (source : List UInt8) : Except Failure DecodedLine :=
  (takeBytes (codeBytes nibbles width) source).map fun bytes ↦
    let codes := if nibbles then (bytes.flatMap nibblesOf).take width else bytes
    ⟨codes.map (view.color palette), codeBytes nibbles width⟩

end DualPlaneVideo
