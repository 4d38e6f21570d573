import DualPlaneVideo.Settings.NamedChoice

/-!
# Pixel aspect

How wide a pixel is shown for its height. The ratios are those of the normal pixel clock; pixels of
a double-width frame are half as wide. A stretched picture has no ratio of its own.
-/

namespace DualPlaneVideo

inductive AspectChoice where
  | auto
  | ntsc
  | pal
  | squarePixels
  | stretched
  deriving DecidableEq, Inhabited

/-- A ratio of width to height. -/
structure PixelAspect where
  width : Nat
  height : Nat
  deriving DecidableEq

def PixelAspect.toFloat (aspect : PixelAspect) : Float :=
  aspect.width.toFloat / aspect.height.toFloat

namespace AspectChoice

instance : NamedChoice AspectChoice where
  title := "CdiAspectRatio"
  all := [auto, ntsc, pal, squarePixels, stretched]
  name
    | auto => "Auto"
    | ntsc => "Ntsc"
    | pal => "Pal"
    | squarePixels => "SquarePixels"
    | stretched => "Stretched"

/-- The ratio at the normal pixel clock. The automatic choice follows the field rate. -/
def baseAspect? (choice : AspectChoice) (fiftyHz : Bool) : Option PixelAspect :=
  match choice with
  | auto => some (if fiftyHz then ⟨59, 54⟩ else ⟨10, 11⟩)
  | ntsc => some ⟨10, 11⟩
  | pal => some ⟨59, 54⟩
  | squarePixels => some ⟨1, 1⟩
  | stretched => none

def pixelAspect? (choice : AspectChoice) (fiftyHz doubleWidth : Bool) : Option PixelAspect :=
  (choice.baseAspect? fiftyHz).map fun aspect ↦
    if doubleWidth then { aspect with height := 2 * aspect.height } else aspect

end AspectChoice

end DualPlaneVideo
