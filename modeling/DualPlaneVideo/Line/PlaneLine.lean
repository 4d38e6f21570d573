import DualPlaneVideo.Line.DeltaYuv
import DualPlaneVideo.Line.DirectColor
import DualPlaneVideo.Line.Hold
import DualPlaneVideo.Line.RunLength
import DualPlaneVideo.RegisterFile.Basic

/-!
# Plane lines

A plane's line always has two pixels for each position of normal resolution: at normal resolution
every decoded pixel is written twice. A plane that is off shows nothing and uses no bytes. When
plane B shows direct color, both sources feed its image and plane A shows nothing.
-/

namespace DualPlaneVideo

/-- A plane's line at full width, and the source bytes that it took. -/
structure PlaneLine where
  pixels : Array Color
  consumed : Nat
  deriving DecidableEq

namespace PlaneLine

/-- The number of pixels to decode for a line. -/
def decodedWidth (depth : PixelDepth) (baseWidth : Nat) : Nat :=
  if depth.isDouble then 2 * baseWidth else baseWidth

/-- Gives a decoded pixel the width that its resolution calls for. -/
def widen (depth : PixelDepth) (pixels : List Color) : List Color :=
  if depth.isDouble then pixels else pixels.flatMap fun color ↦ [color, color]

/-- A line of transparent pixels. -/
def blank (baseWidth consumed : Nat) : PlaneLine :=
  ⟨Array.replicate (2 * baseWidth) Color.transparent, consumed⟩

/-- A decoded line at full width, held if the parameters say so. -/
def ofDecoded (parameters : DisplayParameters) (line : DecodedLine) : PlaneLine where
  pixels :=
    let pixels := (widen parameters.depth line.pixels).toArray
    if parameters.holdEnabled then holdLine parameters.holdFactor pixels else pixels
  consumed := line.consumed

/-- The line of a plane that shows an image of its own. A plane that is off or shows direct color
has none in its own source. -/
def decodeOwn (registers : RegisterFile) (plane : Plane) (baseWidth : Nat)
    (source : List UInt8) : Except Failure DecodedLine :=
  let method := registers.codingMethod plane
  let parameters := registers.parameters.get plane
  let width := decodedWidth parameters.depth baseWidth
  let view := PaletteView.ofMethod method plane (ImageCoding.highBank registers.imageCoding)
  match parameters.kind with
  | .mosaic => .error (.mosaicImage plane)
  | .runLength =>
    decodeRunLength registers.palette view (.ofDepth parameters.depth) width source
  | .normal =>
    match method with
    | .off | .rgb555 => .error (.noOwnImage plane)
    | .dyuv => decodeDeltaYuv (.ofSeed (registers.yuvSeed.get plane)) width source
    | .clut8 | .clut7 | .clut77 | .clut4 =>
      decodeIndexed registers.palette view (method == .clut4) width source

/-- What one plane shows on a line of direct color. -/
def decodeCombined (registers : RegisterFile) (plane : Plane) (baseWidth : Nat)
    (sources : PerPlane (List UInt8)) : Except Failure PlaneLine :=
  let parameters := registers.parameters.b
  let width := decodedWidth parameters.depth baseWidth
  (decodeDirectColor width sources.a sources.b).map fun line ↦
    match plane with
    | .a => blank baseWidth line.consumed
    | .b => ofDecoded parameters line

/-- The line of a plane, as the registers are. -/
def decode (registers : RegisterFile) (plane : Plane) (baseWidth : Nat)
    (sources : PerPlane (List UInt8)) : Except Failure PlaneLine :=
  if registers.codingMethod .b = .rgb555 then
    decodeCombined registers plane baseWidth sources
  else if registers.codingMethod plane = .off then .ok (blank baseWidth 0)
  else
    (decodeOwn registers plane baseWidth (sources.get plane)).map
      (ofDecoded (registers.parameters.get plane))

end PlaneLine

end DualPlaneVideo
