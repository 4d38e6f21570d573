import DualPlaneVideo.Cursor.Blink
import DualPlaneVideo.Failure
import DualPlaneVideo.Grid
import DualPlaneVideo.RegisterFile.Basic

/-!
# Cursor overlay

The cursor is a square of sixteen by sixteen one-bit cells, drawn over the finished frame in one
color. On a frame of double width a cell is two pixels wide; otherwise the horizontal position is
halved. Cells that fall outside the frame are not drawn.
-/

namespace DualPlaneVideo

namespace Cursor

/-- The pixels under the set cells of a pattern, given its upper left corner. The highest bit of a
row is the leftmost cell. -/
def coveredPixels (pattern : Vector UInt16 16) (left top cellWidth : Nat) : List (Nat × Nat) :=
  (List.finRange 16).flatMap fun row ↦
    (List.range 16).flatMap fun column ↦
      if pattern[row].toNat.testBit (15 - column) then
        (List.range cellWidth).map fun dx ↦ (left + column * cellWidth + dx, top + row.val)
      else []

/-- Gives all the pixels one color. -/
def paint (frame : Grid) (cells : List (Nat × Nat)) (color : Color) : Grid :=
  cells.foldl (fun frame cell ↦ frame.set cell.1 cell.2 color) frame

/-- The pixels that the cursor covers while it shows. -/
def shape (registers : RegisterFile) (doubleWidth : Bool) : List (Nat × Nat) :=
  let x := CursorPosition.x registers.cursorPosition
  let y := CursorPosition.y registers.cursorPosition
  if doubleWidth then coveredPixels registers.cursorPattern x y 2
  else coveredPixels registers.cursorPattern (x / 2) y 1

/-- Draws the cursor as its control register and its blink phase say. -/
def draw (frame : Grid) (registers : RegisterFile) (blink : Blink) (doubleWidth : Bool) :
    Except Failure Grid :=
  if !CursorControl.enabled registers.cursorControl then .ok frame
  else if CursorControl.doubleResolution registers.cursorControl then
    .error .doubleResolutionCursor
  else
    match blink.color? registers.cursorControl with
    | none => .ok frame
    | some color => .ok (paint frame (shape registers doubleWidth) color)

end Cursor

end DualPlaneVideo
