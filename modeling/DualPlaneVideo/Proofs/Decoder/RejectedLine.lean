import DualPlaneVideo.Proofs.Decoder.FailedLine
import DualPlaneVideo.Proofs.Decoder.InterruptStatus

/-!
# After a rejected line

A line that is rejected for a mosaic may have decoded plane A into its buffer before plane B is
rejected. Nothing ever shows what a buffer held before the line that is decoded into it, so a
decoder behind a rejected line answers everything as if it had never been asked for that line.
-/

namespace DualPlaneVideo

namespace Decoder

variable {decoder other after : Decoder} {memory : Memory} {sources : PerPlane (List UInt8)}
  {plane : Plane}

/-! ## Answers -/

/-- What an operation lets its caller know. -/
inductive Answer where
  | frameStarted (raised : List UInt8) (result : Except Failure (PerPlane (Option Word)))
  | lineShown (raised : List UInt8) (result : Except Failure LineReport)
  | frameFinished (result : Except Failure Grid)
  | value (value : UInt16)
  | nothing

def answer (decoder : Decoder) : Operation → Answer
  | .enterFrame memory =>
    .frameStarted (decoder.enterFrame memory).raised (decoder.enterFrame memory).result
  | .advanceLine memory sources =>
    .lineShown (decoder.advanceLine memory sources).raised
      (decoder.advanceLine memory sources).result
  | .finishFrame => .frameFinished (decoder.finishFrame.map Decoder.frame)
  | .readSystem offset => .value (decoder.readSystem offset).1
  | .write _ | .reset | .reload _ => .nothing

/-- The answers to operations that follow each other. -/
def answers (decoder : Decoder) : List Operation → List Answer
  | [] => []
  | operation :: operations =>
    decoder.answer operation :: (decoder.perform operation).answers operations

/-! ## Other buffers -/

/-- The decoders are the same up to what is in their plane buffers. -/
def AgreesBesideBuffers (decoder other : Decoder) : Prop :=
  ∃ buffers, other = { decoder with planeLines := buffers } ∧
    ∀ plane, (buffers.get plane).size = (decoder.planeLines.get plane).size

theorem AgreesBesideBuffers.storeLine (h : AgreesBesideBuffers decoder other) (plane : Plane)
    (line : PlaneLine) :
    AgreesBesideBuffers (decoder.storeLine plane line) (other.storeLine plane line) := by
  obtain ⟨buffers, rfl, hsize⟩ := h
  refine ⟨_, rfl, fun side ↦ ?_⟩
  unfold Decoder.storeLine
  by_cases hside : side = plane
  · subst hside
    simp only [PerPlane.get_set_self, Grid.size_overwrite, hsize]
  · simp only [PerPlane.get_set_of_ne _ hside, hsize]

theorem AgreesBesideBuffers.decodeLine (h : AgreesBesideBuffers decoder other) (plane : Plane)
    (sources : PerPlane (List UInt8)) :
    (other.decodeLine plane sources).2 = (decoder.decodeLine plane sources).2 ∧
      AgreesBesideBuffers (decoder.decodeLine plane sources).1
        (other.decodeLine plane sources).1 := by
  have hstored := fun line ↦ h.storeLine plane line
  obtain ⟨buffers, rfl, hsize⟩ := h
  unfold Decoder.decodeLine
  dsimp only
  split
  · exact ⟨rfl, buffers, rfl, hsize⟩
  · rw [hsize]
    split
    · exact ⟨rfl, hstored _⟩
    · exact ⟨rfl, buffers, rfl, hsize⟩

theorem AgreesBesideBuffers.decodeLines (h : AgreesBesideBuffers decoder other)
    (sources : PerPlane (List UInt8)) :
    (other.decodeLines sources).2 = (decoder.decodeLines sources).2 ∧
      AgreesBesideBuffers (decoder.decodeLines sources).1 (other.decodeLines sources).1 := by
  obtain ⟨hresult, hfirst⟩ := h.decodeLine .a sources
  rcases hA : decoder.decodeLine .a sources with ⟨afterA, failure | consumedA⟩
  all_goals
    rcases hotherA : other.decodeLine .a sources with ⟨otherAfterA, otherResult⟩
    rw [hA, hotherA] at hresult hfirst
    cases hresult
  · rw [decodeLines_of_error hA, decodeLines_of_error hotherA]
    exact ⟨rfl, hfirst⟩
  · obtain ⟨hresultB, hsecond⟩ := hfirst.decodeLine .b sources
    rw [decodeLines_of_ok hA, decodeLines_of_ok hotherA]
    exact ⟨congrArg (Except.map _) hresultB, hsecond⟩

/-- A line that has been decoded is in the buffers, whatever they held. -/
theorem AgreesBesideBuffers.getD_decodeLines {otherAfter : Decoder} {consumed count : PerPlane Nat}
    (h : AgreesBesideBuffers decoder other)
    (hdecoded : decoder.decodeLines sources = (after, .ok consumed))
    (hother : other.decodeLines sources = (otherAfter, .ok count)) {x : Nat}
    (hx : x < 2 * decoder.format.baseWidth) :
    (otherAfter.planeLines.get plane).getD x .transparent =
      (after.planeLines.get plane).getD x .transparent := by
  obtain ⟨buffers, rfl, -⟩ := h
  obtain ⟨lines, hlines, hfit, rfl, -⟩ := decodeLines_eq_ok_iff.mp hdecoded
  obtain ⟨otherLines, hotherLines, hotherFit, rfl, -⟩ := decodeLines_eq_ok_iff.mp hother
  have hsame : otherLines.get plane = lines.get plane :=
    Except.ok.inj ((hotherLines plane).symm.trans (hlines plane))
  have hpixel : x < (lines.get plane).pixels.size := by
    rw [PlaneLine.size_decode (hlines plane)]
    exact hx
  have hotherPixel : x < (otherLines.get plane).pixels.size := by rwa [hsame]
  rw [Array.getD_eq_getD_getElem?, Array.getD_eq_getD_getElem?,
    getElem?_withLines _ (hfit plane) hpixel, getElem?_withLines _ (hotherFit plane) hotherPixel,
    hsame]

/-- Buffers that hold the same line are scanned the same. -/
theorem scanLines_withBuffers {buffers : PerPlane (Array Color)}
    (hsize : ∀ plane, (buffers.get plane).size = (decoder.planeLines.get plane).size)
    (hpixels : ∀ plane, ∀ x < 2 * decoder.format.baseWidth,
      (buffers.get plane).getD x .transparent =
        (decoder.planeLines.get plane).getD x .transparent) :
    scanLines { decoder with planeLines := buffers } =
      decoder.scanLines.map fun after ↦ { after with planeLines := buffers } := by
  have hrow : scanRow { decoder with planeLines := buffers } = decoder.scanRow :=
    LineView.scan_congr hpixels
  have hbuffers : HasPlaneLines { decoder with planeLines := buffers } ↔ decoder.HasPlaneLines := by
    apply forall_congr'
    intro plane
    rw [hsize]
  unfold scanLines
  simp only [hrow, hbuffers]
  split
  · split <;> rfl
  · rfl

theorem AgreesBesideBuffers.pictureLine (h : AgreesBesideBuffers decoder other)
    (sources : PerPlane (List UInt8)) :
    (other.pictureLine sources).2 = (decoder.pictureLine sources).2 ∧
      AgreesBesideBuffers (decoder.pictureLine sources).1 (other.pictureLine sources).1 := by
  obtain ⟨hresult, hdecoded⟩ := h.decodeLines sources
  have hformat : (decoder.decodeLines sources).1.format = decoder.format := by
    obtain ⟨buffers, hafter, -⟩ := decodeLines_fst decoder sources
    rw [hafter]
  unfold Decoder.pictureLine
  rcases hrun : decoder.decodeLines sources with ⟨decoded, failure | consumed⟩
  all_goals
    rcases hotherRun : other.decodeLines sources with ⟨otherDecoded, otherResult⟩
    rw [hrun, hotherRun] at hresult hdecoded
    cases hresult
  · exact ⟨rfl, hdecoded⟩
  · obtain ⟨buffers, rfl, hsize⟩ := hdecoded
    have hscan : scanLines { decoded with planeLines := buffers } =
        decoded.scanLines.map fun after ↦ { after with planeLines := buffers } := by
      apply scanLines_withBuffers hsize
      intro plane x hx
      rw [hrun] at hformat
      exact h.getD_decodeLines hrun hotherRun (hformat ▸ hx)
    dsimp only
    split
    · rw [hscan]
      cases hscanned : decoded.scanLines with
      | error failure => exact ⟨rfl, buffers, rfl, hsize⟩
      | ok scanned =>
        obtain ⟨frame, backdrop, rfl⟩ := scanLines_eq hscanned
        exact ⟨rfl, buffers, rfl, hsize⟩
    · exact ⟨rfl, buffers, rfl, hsize⟩

theorem AgreesBesideBuffers.showLine (h : AgreesBesideBuffers decoder other)
    (sources : PerPlane (List UInt8)) :
    (other.showLine sources).2 = (decoder.showLine sources).2 ∧
      AgreesBesideBuffers (decoder.showLine sources).1 (other.showLine sources).1 := by
  have hpicture := h.pictureLine sources
  obtain ⟨buffers, rfl, hsize⟩ := h
  unfold Decoder.showLine
  dsimp only
  split
  · exact hpicture
  · unfold blankLine
    dsimp only
    split
    · split <;> exact ⟨rfl, buffers, rfl, hsize⟩
    · exact ⟨rfl, buffers, rfl, hsize⟩

/-! ## Operations -/

theorem AgreesBesideBuffers.advanceLine (h : AgreesBesideBuffers decoder other) (memory : Memory)
    (sources : PerPlane (List UInt8)) :
    let step := decoder.advanceLine memory sources
    let otherStep := other.advanceLine memory sources
    otherStep.raised = step.raised ∧ otherStep.result = step.result ∧
      AgreesBesideBuffers step.decoder otherStep.decoder := by
  intro step otherStep
  obtain ⟨hresult, hshown⟩ := h.showLine sources
  simp only [step, otherStep, Decoder.advanceLine]
  rcases hrun : decoder.showLine sources with ⟨shown, failure | consumed⟩
  all_goals
    rcases hotherRun : other.showLine sources with ⟨otherShown, otherResult⟩
    rw [hrun, hotherRun] at hresult hshown
    cases hresult
    obtain ⟨buffers, rfl, hsize⟩ := hshown
    dsimp only
  · exact ⟨rfl, rfl, buffers, rfl, hsize⟩
  · split <;> exact ⟨rfl, rfl, buffers, rfl, hsize⟩

/-- The start of a frame cuts the buffers to their length or extends them. -/
theorem AgreesBesideBuffers.enterFrame (h : AgreesBesideBuffers decoder other) (memory : Memory) :
    let step := decoder.enterFrame memory
    let otherStep := other.enterFrame memory
    otherStep.raised = step.raised ∧ otherStep.result = step.result ∧
      AgreesBesideBuffers step.decoder otherStep.decoder := by
  intro step otherStep
  obtain ⟨buffers, rfl, -⟩ := h
  have hsize (width : Nat) (plane : Plane) :
      ((buffers.map (fitLine width)).get plane).size =
        ((decoder.planeLines.map (fitLine width)).get plane).size := by
    rw [PerPlane.get_map, PerPlane.get_map, size_fitLine, size_fitLine]
  simp only [step, otherStep, Decoder.enterFrame, latchFormat]
  split <;> exact ⟨rfl, rfl, _, rfl, hsize _⟩

theorem AgreesBesideBuffers.finishFrame (h : AgreesBesideBuffers decoder other) :
    other.finishFrame.map Decoder.frame = decoder.finishFrame.map Decoder.frame ∧
      AgreesBesideBuffers (decoder.perform .finishFrame) (other.perform .finishFrame) := by
  obtain ⟨buffers, rfl, hsize⟩ := h
  unfold perform Decoder.finishFrame
  dsimp only
  cases Cursor.draw decoder.frame decoder.registers decoder.blink decoder.format.doubleWidth with
  | error failure => exact ⟨rfl, buffers, rfl, hsize⟩
  | ok frame => exact ⟨rfl, buffers, rfl, hsize⟩

theorem AgreesBesideBuffers.write (h : AgreesBesideBuffers decoder other) (write : BusWrite) :
    AgreesBesideBuffers (decoder.write write) (other.write write) := by
  obtain ⟨buffers, rfl, hsize⟩ := h
  cases write with
  | register opcode value => exact ⟨buffers, rfl, hsize⟩
  | paletteEntry index value => exact ⟨buffers, rfl, hsize⟩
  | matteCommand index value => exact ⟨buffers, rfl, hsize⟩
  | cursorRow row pattern => exact ⟨buffers, rfl, hsize⟩
  | system offset value =>
    simp only [Decoder.write, writeSystem]
    split <;> exact ⟨buffers, rfl, hsize⟩

theorem AgreesBesideBuffers.readSystem (h : AgreesBesideBuffers decoder other) (offset : Word) :
    (other.readSystem offset).1 = (decoder.readSystem offset).1 ∧
      AgreesBesideBuffers (decoder.readSystem offset).2 (other.readSystem offset).2 := by
  obtain ⟨buffers, rfl, hsize⟩ := h
  unfold Decoder.readSystem
  dsimp only
  split <;> exact ⟨rfl, buffers, rfl, hsize⟩

/-- No operation tells the decoders apart. -/
theorem AgreesBesideBuffers.perform (h : AgreesBesideBuffers decoder other)
    (operation : Operation) :
    other.answer operation = decoder.answer operation ∧
      AgreesBesideBuffers (decoder.perform operation) (other.perform operation) := by
  cases operation with
  | enterFrame memory =>
    obtain ⟨hraised, hresult, hafter⟩ := h.enterFrame memory
    exact ⟨by rw [answer, answer, hraised, hresult], hafter⟩
  | advanceLine memory sources =>
    obtain ⟨hraised, hresult, hafter⟩ := h.advanceLine memory sources
    exact ⟨by rw [answer, answer, hraised, hresult], hafter⟩
  | finishFrame =>
    obtain ⟨hframe, hafter⟩ := h.finishFrame
    exact ⟨by rw [answer, answer, hframe], hafter⟩
  | write write => exact ⟨rfl, h.write write⟩
  | readSystem offset =>
    obtain ⟨hvalue, hafter⟩ := h.readSystem offset
    exact ⟨by rw [answer, answer, hvalue], hafter⟩
  | reset =>
    obtain ⟨buffers, rfl, hsize⟩ := h
    exact ⟨rfl, buffers, rfl, hsize⟩
  | reload settings =>
    obtain ⟨buffers, rfl, hsize⟩ := h
    exact ⟨rfl, buffers, rfl, hsize⟩

/-- Nor does any sequence of operations. -/
theorem AgreesBesideBuffers.performAll (h : AgreesBesideBuffers decoder other)
    (operations : List Operation) :
    other.answers operations = decoder.answers operations ∧
      AgreesBesideBuffers (operations.foldl Decoder.perform decoder)
        (operations.foldl Decoder.perform other) := by
  induction operations generalizing decoder other with
  | nil => exact ⟨rfl, h⟩
  | cons operation operations ih =>
    obtain ⟨hanswer, hafter⟩ := h.perform operation
    obtain ⟨hanswers, hlast⟩ := ih hafter
    exact ⟨by rw [answers, answers, hanswer, hanswers], hlast⟩

/-! ## The rejected line -/

/-- A line is rejected for a mosaic while its planes are decoded. -/
theorem showLine_of_mosaic (h : decoder.showLine sources = (after, .error (.mosaicImage plane))) :
    decoder.registers.system.displayEnabled = true ∧
      decoder.decodeLines sources = (after, .error (.mosaicImage plane)) := by
  unfold showLine at h
  split at h
  · rename_i henabled
    refine ⟨henabled, ?_⟩
    unfold pictureLine at h
    split at h
    · rename_i hdecoded
      cases h
      exact hdecoded
    · split at h
      · split at h
        · rename_i hscan
          cases h
          cases scanLines_error hscan
        · cases h
      · cases h
  · unfold blankLine at h
    split at h
    · split at h <;> cases h
    · cases h

/-- A line that is rejected for a mosaic raises no interrupt, comes to no step of the matte and
changes nothing but what is in the plane buffers. Whatever is done afterwards is answered, and
leaves the decoder, as if the line had never been asked for. -/
theorem rejected_line_leaves_no_trace
    (hrejected : (decoder.advanceLine memory sources).result = .error (.mosaicImage plane)) :
    let step := decoder.advanceLine memory sources
    step.raised = [] ∧
    decoder.scannedMatte? sources = none ∧
    AgreesBesideBuffers decoder step.decoder ∧
    ∀ operations : List Operation,
      step.decoder.answers operations = decoder.answers operations ∧
        AgreesBesideBuffers (operations.foldl perform decoder)
          (operations.foldl perform step.decoder) := by
  intro step
  obtain ⟨shown, hshow, hafter⟩ :
      ∃ shown, decoder.showLine sources = (shown, .error (.mosaicImage plane)) ∧
        step = ⟨shown, [], .error (.mosaicImage plane)⟩ := by
    rcases advanceLine_of_error hrejected with ⟨shown, hshow, -⟩ | ⟨shown, consumed, -, hran, -⟩
    · exact ⟨shown, hshow, by simp only [step, advanceLine, hshow]⟩
    · rcases Schedule.runDisplayAreas_error hran with hfailure | ⟨channel, value, hfailure⟩
      · cases hfailure
      · cases hfailure
  obtain ⟨henabled, hdecoded⟩ := showLine_of_mosaic hshow
  have hagrees : AgreesBesideBuffers decoder shown := by
    have hbuffers := decodeLines_fst decoder sources
    rwa [hdecoded] at hbuffers
  rw [hafter]
  refine ⟨rfl, ?_, hagrees, hagrees.performAll⟩
  rw [scannedMatte?, if_pos henabled, hdecoded]

/-- Three positions and two lines, with an image on plane A and a mosaic on plane B. -/
def mosaicBehindImage : Decoder :=
  { initial default with
    registers :=
      { RegisterFile.initial with
        imageCoding := 0x503
        parameters := ⟨.initial, { DisplayParameters.initial with kind := .mosaic }⟩
        system := SystemRegisters.zeroed.write (.displayCommand .a) 0x8000 }
    format := { ScreenFormat.initial with baseWidth := 3, activeLines := 2 }
    planeLines := .both (Array.replicate 6 .transparent)
    frame := .blank 3 2
    backdrop := .blank 1 2 }

/-- Plane B is turned off, and the line is shown after all. -/
def turnOffBAndRepeat : List Operation :=
  [.write (.register 0xC0 0x003), .advanceLine (fun _ ↦ 0) ⟨[1, 2, 3], []⟩]

theorem rejected_line_leaves_no_trace_behind_image :
    let step := mosaicBehindImage.advanceLine (fun _ ↦ 0) ⟨[1, 2, 3], []⟩
    step.result = .error (.mosaicImage .b) ∧
      step.raised = [] ∧
      step.decoder.planeLines.a ≠ mosaicBehindImage.planeLines.a ∧
      step.decoder.answers turnOffBAndRepeat = mosaicBehindImage.answers turnOffBAndRepeat ∧
      (turnOffBAndRepeat.foldl perform step.decoder).frame =
        (turnOffBAndRepeat.foldl perform mosaicBehindImage).frame := by
  intro step
  have hrejected : (mosaicBehindImage.advanceLine (fun _ ↦ 0) ⟨[1, 2, 3], []⟩).result =
      .error (.mosaicImage .b) := rfl
  obtain ⟨hraised, -, -, hlater⟩ := rejected_line_leaves_no_trace hrejected
  obtain ⟨hanswers, buffers, hframe, -⟩ := hlater turnOffBAndRepeat
  refine ⟨hrejected, hraised, by decide +kernel, hanswers, ?_⟩
  rw [hframe]

end Decoder

end DualPlaneVideo
