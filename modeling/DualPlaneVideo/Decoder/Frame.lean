import DualPlaneVideo.Decoder.Basic
import DualPlaneVideo.Decoder.Scan
import DualPlaneVideo.Line.PlaneLine

/-!
# Composing a frame

A frame starts by latching its format and running the initial control programs. Each line is then
decoded, scanned into the frame and followed by the display control programs, which set up the next
line. At the end the cursor is drawn over the frame.

Interrupts are raised once all programs of a step have run, channel A before channel B; a program
that fails keeps the whole step from raising any.
-/

namespace DualPlaneVideo

/-- The decoder after a step, the lines of the interrupts that it raised, in order, and its result.
What a failed step has changed stays changed. -/
structure DecoderStep (α : Type) where
  decoder : Decoder
  raised : List UInt8
  result : Except Failure α

/-- What a line tells about the source streams: the bytes taken from them, and where the display
control programs want them read from next. -/
structure LineReport where
  consumed : PerPlane Nat
  readCursors : PerPlane (Option Word)
  deriving DecidableEq

namespace Decoder

/-- An interrupt for each channel whose program asked for one. -/
def interruptLines (settings : Settings) (requests : PerPlane ProgramRequest) : List UInt8 :=
  (requests.toList.filter (·.interrupted)).map fun _ ↦ settings.interruptLine

/-- The decoder after control programs have run. -/
def afterPrograms (decoder : Decoder) (ran : ScheduleResult) : Decoder :=
  { decoder with registers := ran.registers, areas := ran.areas }

/-- Starts a frame. The result is the read cursors that the initial programs load. -/
def enterFrame (decoder : Decoder) (memory : Memory) :
    DecoderStep (PerPlane (Option Word)) :=
  let decoder := { decoder.latchFormat with line := 0 }
  let ran := Schedule.runInitialAreas memory decoder.settings decoder.registers decoder.areas
  let decoder := decoder.afterPrograms ran
  match ran.requests with
  | .error failure => ⟨decoder, [], .error failure⟩
  | .ok requests =>
    ⟨decoder, interruptLines decoder.settings requests, .ok (requests.map (·.readCursor))⟩

/-- The decoder with a line in the plane's buffer. -/
def storeLine (decoder : Decoder) (plane : Plane) (line : PlaneLine) : Decoder :=
  let buffer := Grid.overwrite (decoder.planeLines.get plane) 0 line.pixels
  { decoder with planeLines := decoder.planeLines.set plane buffer }

/-- Decodes the next line of a plane into its buffer. The result is the bytes consumed. -/
def decodeLine (decoder : Decoder) (plane : Plane) (sources : PerPlane (List UInt8)) :
    Decoder × Except Failure Nat :=
  match PlaneLine.decode decoder.registers plane decoder.format.baseWidth sources with
  | .error failure => (decoder, .error failure)
  | .ok line =>
    if line.pixels.size ≤ (decoder.planeLines.get plane).size then
      (decoder.storeLine plane line, .ok line.consumed)
    else (decoder, .error .lineOutsideBuffer)

/-- Decodes the next line of both planes, plane A first. The result is the bytes consumed. -/
def decodeLines (decoder : Decoder) (sources : PerPlane (List UInt8)) :
    Decoder × Except Failure (PerPlane Nat) :=
  let first := decoder.decodeLine .a sources
  match first.2 with
  | .error failure => (first.1, .error failure)
  | .ok consumedA =>
    let second := first.1.decodeLine .b sources
    (second.1, second.2.map fun consumedB ↦ ⟨consumedA, consumedB⟩)

/-- The plane lines reach to the end of the screen line. -/
def HasPlaneLines (decoder : Decoder) : Prop :=
  ∀ plane, decoder.format.planeWidth ≤ (decoder.planeLines.get plane).size

instance (decoder : Decoder) : Decidable decoder.HasPlaneLines :=
  inferInstanceAs (Decidable (∀ _, _ ≤ _))

/-- The matte before the first position of a line. -/
def startMatte (registers : RegisterFile) : MatteState :=
  .atLineStart registers.imageCoding registers.matteCommands registers.contributionFactor

/-- The row of the decoded plane lines, and the matte at its end. -/
def scanRow (decoder : Decoder) : LineView.Scan :=
  (LineView.ofRegisters decoder.registers).scan decoder.planeLines decoder.format.doubleWidth
    (startMatte decoder.registers) decoder.format.baseWidth

/-- Scans the decoded plane lines into the frame. The contribution factors stay as the matte leaves
them. -/
def scanLines (decoder : Decoder) : Except Failure Decoder :=
  if decoder.HasPlaneLines then
    let scan := decoder.scanRow
    let registers := decoder.registers
    match decoder.frame.setRow? decoder.line scan.row with
    | none => .error .rowOutsideFrame
    | some frame =>
      .ok { decoder with
        registers := { registers with contributionFactor := scan.matte.factors }
        frame
        backdrop := decoder.backdrop.set 0 decoder.line (.ofCode registers.backdrop) }
  else .error .lineOutsideBuffer

/-- Decodes a line and, while the frame has lines left, shows it. -/
def pictureLine (decoder : Decoder) (sources : PerPlane (List UInt8)) :
    Decoder × Except Failure (PerPlane Nat) :=
  match decoder.decodeLines sources with
  | (decoder, .error failure) => (decoder, .error failure)
  | (decoder, .ok consumed) =>
    if decoder.line < decoder.format.activeLines then
      match decoder.scanLines with
      | .error failure => (decoder, .error failure)
      | .ok decoder => (decoder, .ok consumed)
    else (decoder, .ok consumed)

/-- Shows a black line, while the frame has lines left. -/
def blankLine (decoder : Decoder) : Decoder × Except Failure (PerPlane Nat) :=
  if decoder.line < decoder.format.activeLines then
    match decoder.frame.fillRow? decoder.line .black with
    | none => (decoder, .error .rowOutsideFrame)
    | some frame => ({ decoder with frame }, .ok (.both 0))
  else (decoder, .ok (.both 0))

/-- One line of the picture. -/
def showLine (decoder : Decoder) (sources : PerPlane (List UInt8)) :
    Decoder × Except Failure (PerPlane Nat) :=
  if decoder.registers.system.displayEnabled then decoder.pictureLine sources
  else decoder.blankLine

/-- Shows a line and runs the display control programs. A failed step stays on its line. -/
def advanceLine (decoder : Decoder) (memory : Memory) (sources : PerPlane (List UInt8)) :
    DecoderStep LineReport :=
  match decoder.showLine sources with
  | (decoder, .error failure) => ⟨decoder, [], .error failure⟩
  | (decoder, .ok consumed) =>
    let ran := Schedule.runDisplayAreas memory decoder.settings decoder.registers decoder.areas
    let decoder := decoder.afterPrograms ran
    match ran.requests with
    | .error failure => ⟨decoder, [], .error failure⟩
    | .ok requests =>
      { decoder := { decoder with line := decoder.line + 1 }
        raised := interruptLines decoder.settings requests
        result := .ok ⟨consumed, requests.map (·.readCursor)⟩ }

/-- Draws the cursor over the frame and lets a field pass. A cursor that cannot be drawn leaves
everything as it was. -/
def finishFrame (decoder : Decoder) : Except Failure Decoder :=
  (Cursor.draw decoder.frame decoder.registers decoder.blink decoder.format.doubleWidth).map
    fun frame ↦
      { decoder with
        frame
        blink := decoder.blink.nextField decoder.registers.cursorControl decoder.format.sixtyHz }

end Decoder

end DualPlaneVideo
