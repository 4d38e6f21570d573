import DualPlaneVideo.DisplayParameters
import DualPlaneVideo.ImageCoding
import DualPlaneVideo.Palette
import DualPlaneVideo.SystemRegisters

/-!
# Register file

All registers of the video decoder: those that control programs load, the palette, the display
parameters of each plane and the system registers of the bus.
-/

namespace DualPlaneVideo

structure RegisterFile where
  imageCoding : Word
  transparency : Word
  frontPlane : Plane
  paletteBank : UInt8
  transparentColor : PerPlane Word
  maskColor : PerPlane Word
  yuvSeed : PerPlane Word
  cursorPosition : Word
  cursorControl : Word
  cursorPattern : Vector UInt16 16
  matteCommands : Vector Word 8
  backdrop : UInt8
  mosaicFactor : PerPlane Word
  contributionFactor : PerPlane UInt8
  palette : Palette
  parameters : PerPlane DisplayParameters
  system : SystemRegisters

namespace RegisterFile

/-- Everything is zero, except that both planes contribute fully. -/
def initial : RegisterFile where
  imageCoding := 0
  transparency := 0
  frontPlane := .a
  paletteBank := 0
  transparentColor := .both 0
  maskColor := .both 0
  yuvSeed := .both 0
  cursorPosition := 0
  cursorControl := 0
  cursorPattern := Vector.replicate 16 0
  matteCommands := Vector.replicate 8 0
  backdrop := 0
  mosaicFactor := .both 0
  contributionFactor := .both 63
  palette := .zeroed
  parameters := .both .initial
  system := .zeroed

instance : Inhabited RegisterFile := ⟨initial⟩

/-- Turns both planes and the cursor off and clears the system registers; all else stays. -/
def reset (registers : RegisterFile) : RegisterFile :=
  { registers with
    imageCoding := 0
    cursorControl := registers.cursorControl &&& 0xFF7FFFFF
    system := .zeroed }

def codingMethod (registers : RegisterFile) (plane : Plane) : CodingMethod :=
  ImageCoding.method registers.imageCoding plane

end RegisterFile

end DualPlaneVideo
