import DualPlaneVideo.Decoder.Bus
import DualPlaneVideo.Decoder.Frame

/-!
# The video unit

Around the decoder stand video memory, a read cursor for each plane's image data, and the line
schedule of a frame. Every tick is one line: the first starts a frame, the active ones are decoded
from memory at the read cursors, and the last hands the finished frame to a renderer.

A read cursor is a 20-bit address. The bus writes its lower sixteen bits through the video start
register of its channel and its upper four through the display command register.
-/

namespace DualPlaneVideo

structure VideoUnit where
  decoder : Decoder
  ram : VideoRam
  readCursors : PerPlane Word
  /-- The line of the frame that the next tick runs, blanking lines included. -/
  scanline : Nat
  settings : Settings

/-- A finished frame on its way to the renderer. -/
structure FinishedFrame where
  frame : Grid
  /-- `none` stretches the picture to fill the output. -/
  pixelAspect : Option PixelAspect

/-- Why a tick failed: in the decoder, or with the renderer's own error. -/
inductive TickFailure (ε : Type) where
  | decoder (failure : Failure)
  | renderer (error : ε)

namespace TickFailure

def message : TickFailure String → String
  | decoder failure => "Video decoder error: " ++ failure.message
  | renderer error => "Error rendering video output: " ++ error

end TickFailure

/-- The unit after a tick, the interrupts that the tick raised, the frame that it handed to the
renderer, if any, and its result, which tells whether the renderer took a frame. -/
structure Tick (ε : Type) where
  unit : VideoUnit
  raised : List UInt8
  presented : Option FinishedFrame
  result : Except (TickFailure ε) Bool

namespace VideoUnit

def initial (settings : Settings) : VideoUnit where
  decoder := .initial settings
  ram := .zeroed
  readCursors := .both 0
  scanline := 0
  settings := settings

instance : Inhabited VideoUnit := ⟨initial default⟩

def reload (unit : VideoUnit) (settings : Settings) : VideoUnit :=
  { unit with settings, decoder := unit.decoder.reload settings }

def reset (unit : VideoUnit) : VideoUnit :=
  { unit with decoder := unit.decoder.reset, readCursors := .both 0, scanline := 0 }

/-! ## Ticks -/

/-- The bytes of memory that a line may need. A run-length line can take two for each pixel of
double resolution. -/
def windowLength (format : ScreenFormat) : Nat := 2 * format.planeWidth + 2

/-- What a line finds at the read cursors. -/
def sources (unit : VideoUnit) : PerPlane (List UInt8) :=
  unit.readCursors.map fun cursor ↦
    (unit.ram.readBlock cursor (windowLength unit.decoder.format)).toList

/-- The cursors, replaced where a program has loaded one. -/
def reloadCursors (cursors : PerPlane Word) (loaded : PerPlane (Option Word)) : PerPlane Word :=
  .ofFn fun plane ↦ (loaded.get plane).getD (cursors.get plane)

/-- The cursors moved past the bytes that a line took. -/
def advanceCursors (cursors : PerPlane Word) (consumed : PerPlane Nat) : PerPlane Word :=
  .ofFn fun plane ↦ wrapAddress (cursors.get plane + (consumed.get plane).toUInt32)

/-- A part of a tick: the unit after it, the interrupts raised, and whether it failed. -/
structure Phase where
  unit : VideoUnit
  raised : List UInt8
  failure? : Option Failure

/-- The start of a frame, on its first line. -/
def enterFrame (unit : VideoUnit) : Phase :=
  if unit.scanline = 0 then
    let step := unit.decoder.enterFrame unit.ram.memory
    let unit := { unit with decoder := step.decoder }
    match step.result with
    | .error failure => ⟨unit, step.raised, some failure⟩
    | .ok loaded =>
      ⟨{ unit with readCursors := reloadCursors unit.readCursors loaded }, step.raised, none⟩
  else ⟨unit, [], none⟩

/-- A line of the picture; blanking lines pass without one. -/
def showLine (unit : VideoUnit) : Phase :=
  if unit.scanline < unit.decoder.format.activeLines then
    let step := unit.decoder.advanceLine unit.ram.memory unit.sources
    let unit := { unit with decoder := step.decoder }
    match step.result with
    | .error failure => ⟨unit, step.raised, some failure⟩
    | .ok report =>
      let cursors := advanceCursors unit.readCursors report.consumed
      ⟨{ unit with readCursors := reloadCursors cursors report.readCursors }, step.raised, none⟩
  else ⟨unit, [], none⟩

/-- Goes on to the next line and, after the last one, finishes the frame. -/
def leaveLine {ε : Type} (unit : VideoUnit) (raised : List UInt8)
    (render : FinishedFrame → Except ε Unit) : Tick ε :=
  let format := unit.decoder.format
  if unit.scanline + 1 < format.totalLines then
    ⟨{ unit with scanline := unit.scanline + 1 }, raised, none, .ok false⟩
  else
    let unit := { unit with scanline := 0 }
    match unit.decoder.finishFrame with
    | .error failure => ⟨unit, raised, none, .error (.decoder failure)⟩
    | .ok decoder =>
      let finished : FinishedFrame := {
        frame := decoder.frame
        pixelAspect := unit.settings.aspect.pixelAspect? (!format.sixtyHz) format.doubleWidth }
      { unit := { unit with decoder }
        raised
        presented := some finished
        result :=
          match render finished with
          | .error error => .error (.renderer error)
          | .ok () => .ok true }

/-- Runs one line. A line that fails in the decoder is run again by the next tick. -/
def tick {ε : Type} (unit : VideoUnit) (render : FinishedFrame → Except ε Unit) : Tick ε :=
  let first := unit.enterFrame
  match first.failure? with
  | some failure => ⟨first.unit, first.raised, none, .error (.decoder failure)⟩
  | none =>
    let second := first.unit.showLine
    let raised := first.raised ++ second.raised
    match second.failure? with
    | some failure => ⟨second.unit, raised, none, .error (.decoder failure)⟩
    | none => second.unit.leaveLine raised render

/-! ## Bus access -/

/-- The plane whose video start register is at an offset. -/
def lowBitsPlane? (offset : Word) : Option Plane :=
  match registerOffset offset with
  | 0x14 => some .a
  | 0x04 => some .b
  | _ => none

/-- The plane whose display command register is at an offset. -/
def highBitsPlane? (offset : Word) : Option Plane :=
  match SystemRegister.ofOffset? offset with
  | some (.displayCommand plane) => some plane
  | _ => none

def readRegister (unit : VideoUnit) (offset : Word) : UInt16 × VideoUnit :=
  match lowBitsPlane? offset with
  | some plane => ((unit.readCursors.get plane).toUInt16, unit)
  | none =>
    let (value, decoder) := unit.decoder.readSystem offset
    (value, { unit with decoder })

/-- The cursor with other low bits. -/
def withLowBits (cursor : Word) (value : UInt16) : Word :=
  (cursor &&& 0xFFFF0000) ||| value.toUInt32

/-- The cursor with other high bits, the low four of a display command. -/
def withHighBits (cursor : Word) (command : UInt16) : Word :=
  wrapAddress (((command &&& 0xF).toUInt32 <<< 16) ||| (cursor &&& 0xFFFF))

def writeRegister (unit : VideoUnit) (offset : Word) (value : UInt16) : VideoUnit :=
  match lowBitsPlane? offset with
  | some plane =>
    let cursor := withLowBits (unit.readCursors.get plane) value
    { unit with readCursors := unit.readCursors.set plane cursor }
  | none =>
    let unit := { unit with decoder := unit.decoder.writeSystem offset value }
    match highBitsPlane? offset with
    | some plane =>
      let cursor := withHighBits (unit.readCursors.get plane) value
      { unit with readCursors := unit.readCursors.set plane cursor }
    | none => unit

end VideoUnit

end DualPlaneVideo
