import DualPlaneVideo.ControlProgram.Schedule
import DualPlaneVideo.Cursor.Overlay
import DualPlaneVideo.ScreenFormat

/-!
# The video decoder

The decoder owns the register file, the state of the control programs and of the cursor, and the
picture that it is composing: the frame, the last line of each plane, and the backdrop color of
every line. Their sizes follow the screen format that the frame started with.
-/

namespace DualPlaneVideo

structure Decoder where
  registers : RegisterFile
  areas : PerPlane DisplayArea
  blink : Blink
  format : ScreenFormat
  /-- The next line of the frame, counted from the top. -/
  line : Nat
  planeLines : PerPlane (Array Color)
  frame : Grid
  /-- One pixel for each line. -/
  backdrop : Grid
  settings : Settings

namespace Decoder

/-- A decoder in its initial format, with blank pictures. -/
def initial (settings : Settings) : Decoder where
  registers := .initial
  areas := .both default
  blink := .start
  format := .initial
  line := 0
  planeLines := .both (Array.replicate ScreenFormat.initial.planeWidth Color.transparent)
  frame := .blank ScreenFormat.initial.screenWidth ScreenFormat.initial.activeLines
  backdrop := .blank 1 ScreenFormat.initial.activeLines
  settings := settings

instance : Inhabited Decoder := ⟨initial default⟩

/-- A plane line of another length, cut off or continued by transparent pixels. -/
def fitLine (width : Nat) (line : Array Color) : Array Color :=
  line.extract 0 width ++ Array.replicate (width - line.size) Color.transparent

/-- Takes the screen format from the registers and fits the pictures to it. -/
def latchFormat (decoder : Decoder) : Decoder :=
  let format := ScreenFormat.ofRegisters decoder.registers.system decoder.registers.parameters
  { decoder with
    format
    planeLines := decoder.planeLines.map (fitLine format.planeWidth)
    frame := decoder.frame.resize format.screenWidth format.activeLines
    backdrop := decoder.backdrop.resize 1 format.activeLines }

/-- Turns both planes and the cursor off and forgets where the control programs are. The palette,
most registers and the format stay. -/
def reset (decoder : Decoder) : Decoder :=
  { decoder with
    registers := decoder.registers.reset
    areas := .both default
    blink := .start
    line := 0
    frame := decoder.frame.fill .black }

def reload (decoder : Decoder) (settings : Settings) : Decoder :=
  { decoder with settings }

end Decoder

end DualPlaneVideo
