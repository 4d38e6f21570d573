import DualPlaneVideo.Compositing
import DualPlaneVideo.Matte.Walk
import DualPlaneVideo.RegisterFile.Basic
import DualPlaneVideo.Transparency

/-!
# Scanning a line

From the two plane lines a row of the screen is scanned from left to right. At each position of
normal resolution the matte takes a step; then the pixels there are resolved against their plane's
transparency condition and composited. A screen of double width shows both plane pixels of a
position, any other screen the first.
-/

namespace DualPlaneVideo

/-- What is fixed while a line is scanned. A plane without a rule shows no image of its own. -/
structure LineView where
  rules : PerPlane (Option TransparencyRule)
  layering : Layering
  backdrop : Color
  commands : Vector Word 8

namespace LineView

/-- The plane shows an image of its own. Direct color on plane B leaves plane A without one. -/
def showsImage (registers : RegisterFile) (plane : Plane) : Bool :=
  registers.codingMethod plane != .off &&
    (plane == .b || registers.codingMethod .b != .rgb555)

def rule? (registers : RegisterFile) (plane : Plane) : Option TransparencyRule :=
  if showsImage registers plane then
    some {
      condition := TransparencyControl.condition registers.transparency plane
      transparentColor := registers.transparentColor.get plane
      maskColor := registers.maskColor.get plane }
  else none

def ofRegisters (registers : RegisterFile) : LineView where
  rules := .ofFn (rule? registers)
  layering := ⟨registers.frontPlane, TransparencyControl.mixes registers.transparency⟩
  backdrop := .ofCode registers.backdrop
  commands := registers.matteCommands

/-- A plane's pixel after its transparency condition. -/
def resolved (view : LineView) (matte : MatteState) (plane : Plane) (pixel : Color) : Color :=
  match view.rules.get plane with
  | some rule => rule.resolve pixel (matte.flags plane)
  | none => pixel

/-- The screen color at plane pixel `x`. -/
def screenColor (view : LineView) (lines : PerPlane (Array Color)) (matte : MatteState)
    (x : Nat) : Color :=
  let pixel (plane : Plane) := view.resolved matte plane ((lines.get plane).getD x .transparent)
  Compositing.composite (.ofFn pixel) view.backdrop matte.factors view.layering

/-- The row so far and the matte after the last position. -/
structure Scan where
  matte : MatteState
  row : Array Color

/-- Scans one position. -/
def scanPosition (view : LineView) (lines : PerPlane (Array Color)) (doubleWidth : Bool)
    (scan : Scan) (position : Nat) : Scan :=
  let matte := scan.matte.step view.commands position
  let row := scan.row.push (view.screenColor lines matte (2 * position))
  { matte
    row := if doubleWidth then row.push (view.screenColor lines matte (2 * position + 1)) else row }

/-- Scans the positions of a line from the left. -/
def scan (view : LineView) (lines : PerPlane (Array Color)) (doubleWidth : Bool)
    (matte : MatteState) (positions : Nat) : Scan :=
  Nat.fold positions (fun position _ scan ↦ view.scanPosition lines doubleWidth scan position)
    ⟨matte, Array.emptyWithCapacity (2 * positions)⟩

end LineView

end DualPlaneVideo
