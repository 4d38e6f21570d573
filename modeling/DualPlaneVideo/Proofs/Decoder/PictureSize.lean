import DualPlaneVideo.Proofs.ControlProgram.Failure
import DualPlaneVideo.Proofs.Cursor.Overlay
import DualPlaneVideo.Proofs.Decoder.LineDecoding
import DualPlaneVideo.Proofs.Decoder.Scan

/-!
# Picture sizes

The frame, the backdrop and the plane lines of a decoder have the sizes that its format asks for,
and everything that the decoder does keeps them so. With pictures of these sizes and two source
bytes for each pixel of a plane line, no step reads or writes where there is nothing.
-/

namespace DualPlaneVideo

namespace Decoder

variable {decoder after : Decoder} {plane : Plane} {sources : PerPlane (List UInt8)}
  {memory : Memory} {failure : Failure}

/-- The pictures have the sizes of the format. -/
structure FitsFormat (decoder : Decoder) : Prop where
  width_frame : decoder.frame.width = decoder.format.screenWidth
  height_frame : decoder.frame.height = decoder.format.activeLines
  width_backdrop : decoder.backdrop.width = 1
  height_backdrop : decoder.backdrop.height = decoder.format.activeLines
  size_planeLines : ∀ plane, (decoder.planeLines.get plane).size = decoder.format.planeWidth

theorem fitsFormat_initial (settings : Settings) : (initial settings).FitsFormat where
  width_frame := rfl
  height_frame := rfl
  width_backdrop := rfl
  height_backdrop := rfl
  size_planeLines plane := by
    rw [initial, PerPlane.get_both, Array.size_replicate]

theorem size_fitLine (width : Nat) (line : Array Color) : (fitLine width line).size = width := by
  rw [fitLine, Array.size_append, Array.size_extract, Array.size_replicate]
  omega

/-- Latching a format makes the pictures fit, whatever they were. -/
theorem fitsFormat_latchFormat (decoder : Decoder) : decoder.latchFormat.FitsFormat where
  width_frame := Grid.width_resize _ _ _
  height_frame := Grid.height_resize _ _ _
  width_backdrop := Grid.width_resize _ _ _
  height_backdrop := Grid.height_resize _ _ _
  size_planeLines plane := by
    rw [latchFormat, PerPlane.get_map, size_fitLine]

/-- The sizes depend on nothing but the pictures and the format. -/
theorem FitsFormat.congr (h : decoder.FitsFormat) (hformat : after.format = decoder.format)
    (hframe : after.frame = decoder.frame) (hbackdrop : after.backdrop = decoder.backdrop)
    (hlines : after.planeLines = decoder.planeLines) : after.FitsFormat where
  width_frame := by rw [hframe, hformat, h.width_frame]
  height_frame := by rw [hframe, hformat, h.height_frame]
  width_backdrop := by rw [hbackdrop, h.width_backdrop]
  height_backdrop := by rw [hbackdrop, hformat, h.height_backdrop]
  size_planeLines plane := by rw [hlines, hformat, h.size_planeLines plane]

theorem FitsFormat.reset (h : decoder.FitsFormat) : decoder.reset.FitsFormat where
  width_frame := h.width_frame
  height_frame := h.height_frame
  width_backdrop := h.width_backdrop
  height_backdrop := h.height_backdrop
  size_planeLines := h.size_planeLines

/-- A frame of the same size fits as well. -/
theorem FitsFormat.of_frame (h : decoder.FitsFormat) {frame : Grid}
    (hwidth : frame.width = decoder.frame.width) (hheight : frame.height = decoder.frame.height) :
    FitsFormat { decoder with frame } where
  width_frame := by
    calc
      frame.width = decoder.frame.width := hwidth
      _ = decoder.format.screenWidth := h.width_frame
  height_frame := by
    calc
      frame.height = decoder.frame.height := hheight
      _ = decoder.format.activeLines := h.height_frame
  width_backdrop := h.width_backdrop
  height_backdrop := h.height_backdrop
  size_planeLines := h.size_planeLines

/-- Lines of the same sizes fit as well. -/
theorem FitsFormat.of_size_eq (h : decoder.FitsFormat) {planeLines : PerPlane (Array Color)}
    (hsize : ∀ plane, (planeLines.get plane).size = (decoder.planeLines.get plane).size) :
    FitsFormat { decoder with planeLines } where
  width_frame := h.width_frame
  height_frame := h.height_frame
  width_backdrop := h.width_backdrop
  height_backdrop := h.height_backdrop
  size_planeLines plane := by
    calc
      (planeLines.get plane).size = (decoder.planeLines.get plane).size := hsize plane
      _ = decoder.format.planeWidth := h.size_planeLines plane

/-! ## Decoding -/

/-- Decoding a plane changes nothing but what is in its buffer. -/
theorem decodeLine_fst (decoder : Decoder) (plane : Plane) (sources : PerPlane (List UInt8)) :
    ∃ buffers, (decoder.decodeLine plane sources).1 = { decoder with planeLines := buffers } ∧
      ∀ side, (buffers.get side).size = (decoder.planeLines.get side).size := by
  unfold decodeLine
  split
  · exact ⟨decoder.planeLines, rfl, fun _ ↦ rfl⟩
  · rename_i line _
    split
    · refine ⟨_, rfl, fun side ↦ ?_⟩
      by_cases hside : side = plane
      · subst hside
        rw [PerPlane.get_set_self, Grid.size_overwrite]
      · rw [PerPlane.get_set_of_ne _ hside]
    · exact ⟨decoder.planeLines, rfl, fun _ ↦ rfl⟩

/-- Decoding a line changes nothing but what is in the plane buffers. -/
theorem decodeLines_fst (decoder : Decoder) (sources : PerPlane (List UInt8)) :
    ∃ buffers, (decoder.decodeLines sources).1 = { decoder with planeLines := buffers } ∧
      ∀ side, (buffers.get side).size = (decoder.planeLines.get side).size := by
  obtain ⟨buffersA, hA, hsizeA⟩ := decodeLine_fst decoder .a sources
  obtain ⟨buffersB, hB, hsizeB⟩ :=
    decodeLine_fst { decoder with planeLines := buffersA } .b sources
  rcases hrun : decoder.decodeLine .a sources with ⟨afterA, failure | consumedA⟩
  · rw [decodeLines_of_error hrun]
    rw [hrun] at hA
    exact ⟨buffersA, hA, hsizeA⟩
  · rw [decodeLines_of_ok hrun]
    rw [hrun] at hA
    cases hA
    refine ⟨buffersB, hB, ?_⟩
    intro side
    calc
      (buffersB.get side).size = (buffersA.get side).size := hsizeB side
      _ = (decoder.planeLines.get side).size := hsizeA side

theorem FitsFormat.decodeLines (h : decoder.FitsFormat) (sources : PerPlane (List UInt8)) :
    (decoder.decodeLines sources).1.FitsFormat := by
  obtain ⟨buffers, hafter, hsize⟩ := decodeLines_fst decoder sources
  rw [hafter]
  exact h.of_size_eq hsize

theorem FitsFormat.hasPlaneLines (h : decoder.FitsFormat) : decoder.HasPlaneLines := by
  intro plane
  apply Nat.le_of_eq
  exact (h.size_planeLines plane).symm

/-- With two source bytes for each pixel, a mosaic image is all that keeps a plane from being
decoded. -/
theorem FitsFormat.decodeLine_error (h : decoder.FitsFormat)
    (hlong : ∀ plane, 2 * decoder.format.planeWidth ≤ (sources.get plane).length)
    (herror : (decoder.decodeLine plane sources).2 = .error failure) :
    failure = .mosaicImage plane := by
  cases hline : PlaneLine.decode decoder.registers plane decoder.format.baseWidth sources with
  | error cause =>
    rw [decodeLine_eq_error hline] at herror
    cases herror
    exact (PlaneLine.decode_eq_error_of_long hlong hline).1
  | ok line =>
    have hsize : line.pixels.size ≤ (decoder.planeLines.get plane).size := by
      rw [PlaneLine.size_decode hline, h.size_planeLines plane]
      exact Nat.le_refl _
    rw [decodeLine_eq_ok hline hsize] at herror
    cases herror

theorem FitsFormat.decodeLines_error (h : decoder.FitsFormat)
    (hlong : ∀ plane, 2 * decoder.format.planeWidth ≤ (sources.get plane).length)
    (herror : (decoder.decodeLines sources).2 = .error failure) :
    ∃ plane, failure = .mosaicImage plane := by
  obtain ⟨buffers, hafter, hsize⟩ := decodeLine_fst decoder .a sources
  rcases hrun : decoder.decodeLine .a sources with ⟨afterA, cause | consumedA⟩
  · rw [decodeLines_of_error hrun] at herror
    cases herror
    exact ⟨.a, h.decodeLine_error hlong (congrArg Prod.snd hrun)⟩
  · rw [decodeLines_of_ok hrun] at herror
    rw [hrun] at hafter
    cases hafter
    have hfit := h.of_size_eq hsize
    cases hrunB : (decodeLine { decoder with planeLines := buffers } .b sources).2 with
    | error cause =>
      rw [hrunB] at herror
      cases herror
      exact ⟨.b, hfit.decodeLine_error hlong hrunB⟩
    | ok consumedB =>
      rw [hrunB] at herror
      cases herror

/-! ## Showing a line -/

/-- The frame has the size that the format asks for. -/
structure HasFrame (decoder : Decoder) : Prop where
  width_frame : decoder.frame.width = decoder.format.screenWidth
  height_frame : decoder.frame.height = decoder.format.activeLines

theorem FitsFormat.hasFrame (h : decoder.FitsFormat) : decoder.HasFrame :=
  ⟨h.width_frame, h.height_frame⟩

/-- A line of the picture has its place in the frame. -/
theorem HasFrame.scanLines_eq_ok (h : decoder.HasFrame) (hlines : decoder.HasPlaneLines)
    (hline : decoder.line < decoder.format.activeLines) :
    ∃ frame, decoder.frame.setRow? decoder.line decoder.scanRow.row = some frame ∧
      decoder.scanLines = .ok { decoder with
        registers := { decoder.registers with
          contributionFactor := decoder.scanRow.matte.factors }
        frame
        backdrop := decoder.backdrop.set 0 decoder.line (.ofCode decoder.registers.backdrop) } := by
  have hheight : decoder.line < decoder.frame.height := by rwa [h.height_frame]
  have hwidth : decoder.scanRow.row.size = decoder.frame.width := by
    rw [scanRow, LineView.size_row_scan, h.width_frame]
    rfl
  obtain ⟨frame, hframe⟩ := Grid.setRow?_eq_some hheight hwidth
  refine ⟨frame, hframe, ?_⟩
  simp only [scanLines, hlines, if_true, hframe]

theorem FitsFormat.scanLines_eq_ok (h : decoder.FitsFormat)
    (hline : decoder.line < decoder.format.activeLines) :
    ∃ frame, decoder.frame.setRow? decoder.line decoder.scanRow.row = some frame ∧
      decoder.scanLines = .ok { decoder with
        registers := { decoder.registers with
          contributionFactor := decoder.scanRow.matte.factors }
        frame
        backdrop := decoder.backdrop.set 0 decoder.line (.ofCode decoder.registers.backdrop) } :=
  h.hasFrame.scanLines_eq_ok h.hasPlaneLines hline

/-- Replacing a row of the frame and an entry of the backdrop keeps the sizes. -/
theorem FitsFormat.of_setRow? (h : decoder.FitsFormat) {row : Array Color} {frame : Grid} {y : Nat}
    (hframe : decoder.frame.setRow? y row = some frame) (registers : RegisterFile)
    (color : Color) :
    FitsFormat { decoder with
      registers
      frame
      backdrop := decoder.backdrop.set 0 y color } := by
  have hfit := h.of_frame (Grid.width_of_setRow? hframe) (Grid.height_of_setRow? hframe)
  exact { hfit with
    width_backdrop := by rw [Grid.width_set, h.width_backdrop]
    height_backdrop := by rw [Grid.height_set, h.height_backdrop] }

/-- A black line cannot fail, and changes nothing but the frame. -/
theorem HasFrame.blankLine_eq_ok (h : decoder.HasFrame) :
    ∃ frame, decoder.blankLine = ({ decoder with frame }, .ok (.both 0)) ∧
      frame.width = decoder.frame.width ∧ frame.height = decoder.frame.height ∧
      (decoder.line < decoder.format.activeLines → ∀ column, frame.get? column decoder.line =
        if column < decoder.format.screenWidth then some .black else none) := by
  unfold blankLine
  by_cases hline : decoder.line < decoder.format.activeLines
  · rw [if_pos hline, Grid.fillRow?_eq_setRow?]
    have hheight : decoder.line < decoder.frame.height := by rwa [h.height_frame]
    have hblack : (Array.replicate decoder.frame.width Color.black).size = decoder.frame.width :=
      Array.size_replicate
    obtain ⟨frame, hframe⟩ := Grid.setRow?_eq_some hheight hblack
    rw [hframe]
    refine ⟨frame, rfl, Grid.width_of_setRow? hframe, Grid.height_of_setRow? hframe, ?_⟩
    intro _ column
    rw [Grid.get?_setRow? hframe hheight, if_pos rfl, Array.getElem?_replicate, h.width_frame]
  · rw [if_neg hline]
    exact ⟨decoder.frame, rfl, rfl, rfl, fun hin ↦ absurd hin hline⟩

theorem FitsFormat.blankLine_eq_ok (h : decoder.FitsFormat) :
    ∃ frame, decoder.blankLine = ({ decoder with frame }, .ok (.both 0)) ∧
      FitsFormat { decoder with frame } := by
  obtain ⟨frame, hblank, hwidth, hheight, -⟩ := h.hasFrame.blankLine_eq_ok
  exact ⟨frame, hblank, h.of_frame hwidth hheight⟩

/-- While the display is off, showing a line changes nothing but the frame. -/
theorem FitsFormat.showLine_of_disabled (h : decoder.FitsFormat)
    (hdisabled : decoder.registers.system.displayEnabled = false)
    (sources : PerPlane (List UInt8)) :
    ∃ frame, decoder.showLine sources = ({ decoder with frame }, .ok (.both 0)) := by
  obtain ⟨frame, hblank, -⟩ := h.blankLine_eq_ok
  refine ⟨frame, ?_⟩
  rw [Decoder.showLine, if_neg (by rw [hdisabled]; exact Bool.false_ne_true), hblank]

theorem FitsFormat.pictureLine (h : decoder.FitsFormat) (sources : PerPlane (List UInt8)) :
    (decoder.pictureLine sources).1.FitsFormat ∧
      ∀ failure, (decoder.pictureLine sources).2 = .error failure →
        (decoder.decodeLines sources).2 = .error failure := by
  have hdecoded := h.decodeLines sources
  unfold Decoder.pictureLine
  rcases hrun : decoder.decodeLines sources with ⟨after, failure | consumed⟩
  · rw [hrun] at hdecoded
    exact ⟨hdecoded, fun _ herror ↦ herror⟩
  · rw [hrun] at hdecoded
    dsimp only at hdecoded ⊢
    by_cases hline : after.line < after.format.activeLines
    · obtain ⟨frame, hframe, hscan⟩ := hdecoded.scanLines_eq_ok hline
      rw [if_pos hline, hscan]
      exact ⟨hdecoded.of_setRow? hframe _ _, fun _ herror ↦ by cases herror⟩
    · rw [if_neg hline]
      exact ⟨hdecoded, fun _ herror ↦ by cases herror⟩

theorem FitsFormat.showLine (h : decoder.FitsFormat) (sources : PerPlane (List UInt8)) :
    (decoder.showLine sources).1.FitsFormat := by
  unfold Decoder.showLine
  split
  · exact (h.pictureLine sources).1
  · obtain ⟨frame, hblank, hfit⟩ := h.blankLine_eq_ok
    rw [hblank]
    exact hfit

theorem FitsFormat.showLine_error (h : decoder.FitsFormat)
    (hlong : ∀ plane, 2 * decoder.format.planeWidth ≤ (sources.get plane).length)
    (herror : (decoder.showLine sources).2 = .error failure) :
    ∃ plane, failure = .mosaicImage plane := by
  unfold Decoder.showLine at herror
  split at herror
  · exact h.decodeLines_error hlong ((h.pictureLine sources).2 failure herror)
  · obtain ⟨frame, hblank, -⟩ := h.blankLine_eq_ok
    rw [hblank] at herror
    cases herror

/-! ## Whole steps -/

theorem FitsFormat.advanceLine (h : decoder.FitsFormat) (memory : Memory)
    (sources : PerPlane (List UInt8)) : (decoder.advanceLine memory sources).decoder.FitsFormat := by
  have hshown := h.showLine sources
  unfold Decoder.advanceLine
  rcases hrun : decoder.showLine sources with ⟨after, failure | consumed⟩
  · rw [hrun] at hshown
    exact hshown
  · rw [hrun] at hshown
    dsimp only at hshown ⊢
    split
    · exact hshown.congr rfl rfl rfl rfl
    · exact hshown.congr rfl rfl rfl rfl

/-- With two source bytes for each pixel, a line never fails for want of bytes or pixels. -/
theorem FitsFormat.advanceLine_error (h : decoder.FitsFormat)
    (hlong : ∀ plane, 2 * decoder.format.planeWidth ≤ (sources.get plane).length)
    (herror : (decoder.advanceLine memory sources).result = .error failure) :
    failure.isOutOfBounds = false := by
  unfold Decoder.advanceLine at herror
  rcases hrun : decoder.showLine sources with ⟨after, cause | consumed⟩
  · simp only [hrun] at herror
    cases herror
    obtain ⟨plane, rfl⟩ := h.showLine_error hlong (congrArg Prod.snd hrun)
    rfl
  · simp only [hrun] at herror
    split at herror
    · rename_i hran
      cases herror
      rcases Schedule.runDisplayAreas_error hran with rfl | ⟨channel, value, rfl⟩
      · rfl
      · rfl
    · cases herror

theorem fitsFormat_enterFrame (decoder : Decoder) (memory : Memory) :
    (decoder.enterFrame memory).decoder.FitsFormat := by
  have hlatched := fitsFormat_latchFormat decoder
  unfold enterFrame
  dsimp only
  split
  · exact hlatched.congr rfl rfl rfl rfl
  · exact hlatched.congr rfl rfl rfl rfl

theorem enterFrame_error (herror : (decoder.enterFrame memory).result = .error failure) :
    failure.isOutOfBounds = false := by
  unfold enterFrame at herror
  dsimp only at herror
  split at herror
  · rename_i hran
    cases herror
    obtain ⟨channel, value, rfl⟩ := Schedule.runInitialAreas_error hran
    rfl
  · cases herror

theorem FitsFormat.finishFrame (h : decoder.FitsFormat) (hfinish : decoder.finishFrame = .ok after) :
    after.FitsFormat := by
  obtain ⟨frame, hframe, rfl⟩ := except_map_eq_ok_iff.mp hfinish
  obtain ⟨hwidth, hheight⟩ := Cursor.size_of_draw hframe
  exact (h.of_frame hwidth hheight).congr rfl rfl rfl rfl

theorem finishFrame_error (herror : decoder.finishFrame = .error failure) :
    failure.isOutOfBounds = false := by
  unfold finishFrame at herror
  cases hdraw : Cursor.draw decoder.frame decoder.registers decoder.blink
    decoder.format.doubleWidth with
  | ok frame =>
    rw [hdraw] at herror
    cases herror
  | error cause =>
    rw [hdraw] at herror
    cases herror
    rw [Cursor.draw_eq_error hdraw]
    rfl

end Decoder

end DualPlaneVideo
