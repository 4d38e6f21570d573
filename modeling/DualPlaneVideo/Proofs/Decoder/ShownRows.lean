import DualPlaneVideo.Proofs.Decoder.Registers
import DualPlaneVideo.Proofs.Decoder.ShownLine

/-!
# The rows of a frame

A frame is written row by row, from the top. The rows above the next line are opaque, and they do not
depend on the pictures that the decoder had before the frame.
-/

namespace DualPlaneVideo

/-- What is left of earlier lines and frames. -/
structure Pictures where
  planeLines : PerPlane (Array Color)
  frame : Grid
  backdrop : Grid

namespace Decoder

variable {decoder after : Decoder} {pictures : Pictures} {count : Nat}
  {sources : PerPlane (List UInt8)} {line : ShownLine} {failure : Failure}

/-- The decoder with other pictures. -/
def withPictures (decoder : Decoder) (pictures : Pictures) : Decoder :=
  { decoder with
    planeLines := pictures.planeLines
    frame := pictures.frame
    backdrop := pictures.backdrop }

/-- The decoder with another format and other pictures. -/
def withScreen (decoder : Decoder) (format : ScreenFormat) (pictures : Pictures) : Decoder :=
  { decoder.withPictures pictures with format }

/-- The programs behind a line, and the step to the next line. -/
def followLine (shown : Decoder) (memory : Memory) (consumed : PerPlane Nat) :
    DecoderStep LineReport :=
  let ran := Schedule.runDisplayAreas memory shown.settings shown.registers shown.areas
  match ran.requests with
  | .error failure => ⟨shown.afterPrograms ran, [], .error failure⟩
  | .ok requests =>
    { decoder := { shown.afterPrograms ran with line := shown.line + 1 }
      raised := interruptLines shown.settings requests
      result := .ok ⟨consumed, requests.map (·.readCursor)⟩ }

theorem advanceLine_of_showLine {shown : Decoder} {consumed : PerPlane Nat}
    (h : decoder.showLine sources = (shown, .ok consumed)) (memory : Memory) :
    decoder.advanceLine memory sources = shown.followLine memory consumed := by
  rw [advanceLine, h]
  rfl

/-- A read depends on the screen only in whether the display is active, and it leaves the screen as
it is. -/
theorem readSystem_withScreen_snd (decoder : Decoder) (format : ScreenFormat) (pictures : Pictures)
    (offset : Word) :
    ((decoder.withScreen format pictures).readSystem offset).2 =
      (decoder.readSystem offset).2.withScreen format pictures := by
  unfold readSystem
  dsimp only
  split <;> rfl

theorem readSystem_withScreen_fst {format : ScreenFormat}
    (h : (decoder.withScreen format pictures).displayActive = decoder.displayActive)
    (offset : Word) :
    ((decoder.withScreen format pictures).readSystem offset).1 = (decoder.readSystem offset).1 := by
  unfold readSystem
  rw [h]
  dsimp only
  split <;> rfl

theorem write_withScreen (decoder : Decoder) (format : ScreenFormat) (pictures : Pictures)
    (write : BusWrite) :
    (decoder.withScreen format pictures).write write =
      (decoder.write write).withScreen format pictures := by
  cases write with
  | system offset value =>
    simp only [Decoder.write, writeSystem]
    split <;> rfl
  | register opcode value => rfl
  | paletteEntry index value => rfl
  | matteCommand index value => rfl
  | cursorRow row pattern => rfl

/-- What follows a line depends on no picture and changes none. -/
theorem followLine_withPictures (decoder : Decoder) (pictures : Pictures) (memory : Memory)
    (consumed : PerPlane Nat) :
    let step := decoder.followLine memory consumed
    (decoder.withPictures pictures).followLine memory consumed =
      { step with decoder := step.decoder.withPictures pictures } := by
  intro step
  simp only [step, followLine, withPictures]
  split <;> rfl

theorem followLine_decoder (shown : Decoder) (memory : Memory) (consumed : PerPlane Nat) :
    let step := shown.followLine memory consumed
    ∃ registers areas,
      (∃ failure, step.result = .error failure ∧ step.decoder = { shown with registers, areas }) ∨
      ∃ report, step.result = .ok report ∧
        step.decoder = { shown with registers, areas, line := shown.line + 1 } := by
  intro step
  refine ⟨step.decoder.registers, step.decoder.areas, ?_⟩
  simp only [step, followLine]
  split
  · exact .inl ⟨_, rfl, rfl⟩
  · exact .inr ⟨_, rfl, rfl⟩

/-! ## The rows above a line -/

/-- The decoder has come to line `count` of a frame, blanking lines included: its pictures fit, and
the rows of the frame above the next line are opaque. -/
structure HasShown (decoder : Decoder) (count : Nat) : Prop where
  fits : decoder.FitsFormat
  regular : decoder.format.Regular
  line_eq : decoder.line = min count decoder.format.activeLines
  isSolid : ∀ x y color, y < decoder.line → decoder.frame.get? x y = some color → color.IsSolid

/-- A frame that starts has shown nothing, however its programs end. -/
theorem hasShown_enterFrame (decoder : Decoder) (memory : Memory) :
    (decoder.enterFrame memory).decoder.HasShown 0 := by
  have hline : (decoder.enterFrame memory).decoder.line = 0 := by
    unfold enterFrame
    dsimp only
    split <;> rfl
  refine ⟨fitsFormat_enterFrame decoder memory, ?_, ?_, ?_⟩
  · rw [enterFrame_format]
    exact ScreenFormat.regular_ofRegisters _ _
  · rw [hline, Nat.zero_min]
  · intro x y color hy
    rw [hline] at hy
    cases hy

/-- Registers, settings and areas do not matter. -/
theorem HasShown.congr (h : decoder.HasShown count) (hformat : after.format = decoder.format)
    (hline : after.line = decoder.line) (hframe : after.frame = decoder.frame)
    (hfits : after.FitsFormat) : after.HasShown count where
  fits := hfits
  regular := by
    rw [hformat]
    exact h.regular
  line_eq := by rw [hline, hformat, h.line_eq]
  isSolid := by
    rw [hline, hframe]
    exact h.isSolid

theorem HasShown.line_of_active (h : decoder.HasShown count)
    (hactive : count < decoder.format.activeLines) : decoder.line = count := by
  rw [h.line_eq, Nat.min_eq_left (Nat.le_of_lt hactive)]

/-- A blanking line shows nothing more. -/
theorem HasShown.blanking (h : decoder.HasShown count)
    (hblanking : decoder.format.activeLines ≤ count) : decoder.HasShown (count + 1) where
  fits := h.fits
  regular := h.regular
  line_eq := by
    rw [h.line_eq]
    omega
  isSolid := h.isSolid

theorem HasShown.advanceLine_of_error (h : decoder.HasShown count)
    (herror : ShownLine.ofSources decoder.registers decoder.format sources = .error failure)
    (memory : Memory) : ∃ planeLines,
      decoder.advanceLine memory sources = ⟨{ decoder with planeLines }, [], .error failure⟩ := by
  obtain ⟨planeLines, hshow⟩ := h.fits.showLine_of_error herror
  exact ⟨planeLines, by rw [advanceLine, hshow]⟩

theorem HasShown.advanceLine_of_ok (h : decoder.HasShown count)
    (hactive : count < decoder.format.activeLines)
    (hok : ShownLine.ofSources decoder.registers decoder.format sources = .ok line)
    (memory : Memory) : ∃ planeLines frame backdrop,
      decoder.frame.setRow? decoder.line line.row = some frame ∧
      decoder.advanceLine memory sources =
        (decoder.withLine line planeLines frame backdrop).followLine memory line.consumed := by
  have hline : decoder.line < decoder.format.activeLines := by rwa [h.line_of_active hactive]
  obtain ⟨planeLines, frame, backdrop, hframe, hshow⟩ := h.fits.showLine_of_ok hline hok
  exact ⟨planeLines, frame, backdrop, hframe, advanceLine_of_showLine hshow memory⟩

/-- With its own row the frame is opaque up to the line. -/
theorem HasShown.isSolid_row (h : decoder.HasShown count)
    (hactive : count < decoder.format.activeLines)
    (hok : ShownLine.ofSources decoder.registers decoder.format sources = .ok line) {frame : Grid}
    (hframe : decoder.frame.setRow? decoder.line line.row = some frame) {x y : Nat} {color : Color}
    (hy : y < decoder.line + 1) (hcolor : frame.get? x y = some color) : color.IsSolid := by
  have hheight : y < decoder.frame.height := by
    rw [h.fits.height_frame]
    rw [h.line_of_active hactive] at hy
    omega
  rw [Grid.get?_setRow? hframe hheight] at hcolor
  split at hcolor
  · exact ShownLine.isSolid_of_mem_row hok (Array.mem_of_getElem? hcolor)
  · exact h.isSolid x y color (by omega) hcolor

/-- A line that succeeds comes to the next line, and one that fails stays where it is. -/
theorem HasShown.advanceLine (h : decoder.HasShown count)
    (hactive : count < decoder.format.activeLines) (memory : Memory)
    (sources : PerPlane (List UInt8)) :
    let step := decoder.advanceLine memory sources
    (∀ report, step.result = .ok report → step.decoder.HasShown (count + 1)) ∧
      ∀ failure, step.result = .error failure → step.decoder.HasShown count := by
  intro step
  have hfits : step.decoder.FitsFormat := h.fits.advanceLine memory sources
  cases hshown : ShownLine.ofSources decoder.registers decoder.format sources with
  | error failure =>
    obtain ⟨planeLines, hstep⟩ := h.advanceLine_of_error hshown memory
    simp only [step, hstep] at hfits ⊢
    constructor
    · intro report hresult
      cases hresult
    · intro cause _
      exact h.congr rfl rfl rfl hfits
  | ok line =>
    obtain ⟨planeLines, frame, backdrop, hframe, hstep⟩ :=
      h.advanceLine_of_ok hactive hshown memory
    obtain ⟨registers, areas, hfollow⟩ :=
      followLine_decoder (decoder.withLine line planeLines frame backdrop) memory line.consumed
    have hsolid {x y : Nat} {color : Color} (hy : y < decoder.line + 1)
        (hcolor : frame.get? x y = some color) : color.IsSolid :=
      h.isSolid_row hactive hshown hframe hy hcolor
    rw [← hstep] at hfollow
    rcases hfollow with ⟨cause, hresult, hafter⟩ | ⟨report, hresult, hafter⟩
    · simp only [step, hresult, hafter] at hfits ⊢
      constructor
      · intro report hok
        cases hok
      · intro failure _
        exact ⟨hfits, h.regular, h.line_eq, fun x y color hy ↦ hsolid (Nat.lt_succ_of_lt hy)⟩
    · have hline : decoder.line + 1 = min (count + 1) decoder.format.activeLines := by
        rw [h.line_of_active hactive]
        omega
      simp only [step, hresult, hafter] at hfits ⊢
      constructor
      · intro own _
        exact ⟨hfits, h.regular, hline, fun x y color hy ↦ hsolid hy⟩
      · intro failure herror
        cases herror

/-- Once all lines are shown, the whole frame is opaque. -/
theorem HasShown.isSolid_frame (h : decoder.HasShown count)
    (hle : decoder.format.activeLines ≤ count) : decoder.frame.IsSolid := by
  intro x y color hcolor
  by_cases hy : y < decoder.frame.height
  · refine h.isSolid x y color ?_ hcolor
    rwa [h.line_eq, Nat.min_eq_right hle, ← h.fits.height_frame]
  · rw [Grid.get?_eq_none fun hin ↦ hy hin.2] at hcolor
    cases hcolor

/-! ## Other pictures -/

/-- The decoder has come to line `count` of a frame, and so has it with these pictures: their frame
has the same rows above the next line. -/
structure SharesRows (decoder : Decoder) (pictures : Pictures) (count : Nat) : Prop where
  shown : decoder.HasShown count
  otherShown : (decoder.withPictures pictures).HasShown count
  rows : ∀ x y, y < decoder.line → pictures.frame.get? x y = decoder.frame.get? x y

theorem SharesRows.blanking (h : decoder.SharesRows pictures count)
    (hblanking : decoder.format.activeLines ≤ count) : decoder.SharesRows pictures (count + 1) where
  shown := h.shown.blanking hblanking
  otherShown := h.otherShown.blanking hblanking
  rows := h.rows

/-- Once all lines are shown, the frames are the same. -/
theorem SharesRows.frame_eq (h : decoder.SharesRows pictures count)
    (hle : decoder.format.activeLines ≤ count) : pictures.frame = decoder.frame := by
  have hwidth : pictures.frame.width = decoder.format.screenWidth := h.otherShown.fits.width_frame
  have hheight : pictures.frame.height = decoder.format.activeLines :=
    h.otherShown.fits.height_frame
  apply Grid.ext_get?
  · rw [hwidth, h.shown.fits.width_frame]
  · rw [hheight, h.shown.fits.height_frame]
  · intro x y hy
    apply h.rows
    rwa [h.shown.line_eq, Nat.min_eq_right hle, ← hheight]

/-- A row that both frames take makes them agree one line further. -/
theorem SharesRows.rows_setRow? (h : decoder.SharesRows pictures count)
    (hactive : count < decoder.format.activeLines) {row : Array Color} {frame otherFrame : Grid}
    (hframe : decoder.frame.setRow? decoder.line row = some frame)
    (hother : pictures.frame.setRow? decoder.line row = some otherFrame) {x y : Nat}
    (hy : y < decoder.line + 1) : otherFrame.get? x y = frame.get? x y := by
  have hactiveY : y < decoder.format.activeLines := by
    rw [h.shown.line_of_active hactive] at hy
    exact Nat.lt_of_lt_of_le hy hactive
  have hheight : y < decoder.frame.height := by rwa [h.shown.fits.height_frame]
  have hotherHeight : y < (decoder.withPictures pictures).frame.height := by
    rwa [h.otherShown.fits.height_frame]
  rw [Grid.get?_setRow? hframe hheight, Grid.get?_setRow? hother hotherHeight]
  split
  · rfl
  · exact h.rows x y (by omega)

/-- A line comes out the same with these pictures, and the frames then share one row more than
before, or those that they have shared. -/
theorem SharesRows.advanceLine_eq (h : decoder.SharesRows pictures count)
    (hactive : count < decoder.format.activeLines) (memory : Memory)
    (sources : PerPlane (List UInt8)) :
    let step := decoder.advanceLine memory sources
    ∃ next, (decoder.withPictures pictures).advanceLine memory sources =
        { step with decoder := step.decoder.withPictures next } ∧
      ∀ x y, y < step.decoder.line → next.frame.get? x y = step.decoder.frame.get? x y := by
  intro step
  -- What the line shows is a function of registers, format and sources, which both decoders share.
  cases hshown : ShownLine.ofSources decoder.registers decoder.format sources with
  | error failure =>
    obtain ⟨planeLines, hstep⟩ := h.shown.advanceLine_of_error hshown memory
    obtain ⟨otherLines, hother⟩ := h.otherShown.advanceLine_of_error hshown memory
    refine ⟨{ pictures with planeLines := otherLines }, ?_, ?_⟩
    · simp only [step, hstep, hother]
      rfl
    · simp only [step, hstep]
      exact h.rows
  | ok line =>
    obtain ⟨planeLines, frame, backdrop, hframe, hstep⟩ :=
      h.shown.advanceLine_of_ok hactive hshown memory
    obtain ⟨otherLines, otherFrame, otherBackdrop, hotherFrame, hother⟩ :=
      h.otherShown.advanceLine_of_ok hactive hshown memory
    have hrows {x y : Nat} (hy : y < decoder.line + 1) : otherFrame.get? x y = frame.get? x y :=
      h.rows_setRow? hactive hframe hotherFrame hy
    refine ⟨⟨otherLines, otherFrame, otherBackdrop⟩, ?_, ?_⟩
    · simp only [step, hstep, hother]
      exact followLine_withPictures (decoder.withLine line planeLines frame backdrop)
        ⟨otherLines, otherFrame, otherBackdrop⟩ memory line.consumed
    · obtain ⟨registers, areas, hfollow⟩ :=
        followLine_decoder (decoder.withLine line planeLines frame backdrop) memory line.consumed
      intro x y hy
      rw [← hstep] at hfollow
      rcases hfollow with ⟨failure, -, hafter⟩ | ⟨report, -, hafter⟩
      · simp only [step, hafter] at hy ⊢
        exact hrows (Nat.lt_succ_of_lt hy)
      · simp only [step, hafter] at hy ⊢
        exact hrows hy

theorem SharesRows.advanceLine (h : decoder.SharesRows pictures count)
    (hactive : count < decoder.format.activeLines) (memory : Memory)
    (sources : PerPlane (List UInt8)) :
    let step := decoder.advanceLine memory sources
    ∃ next, (decoder.withPictures pictures).advanceLine memory sources =
        { step with decoder := step.decoder.withPictures next } ∧
      (∀ report, step.result = .ok report → step.decoder.SharesRows next (count + 1)) ∧
      ∀ failure, step.result = .error failure → step.decoder.SharesRows next count := by
  intro step
  obtain ⟨next, heq, hrows⟩ := h.advanceLine_eq hactive memory sources
  obtain ⟨hok, herror⟩ := h.shown.advanceLine hactive memory sources
  obtain ⟨hotherOk, hotherError⟩ := h.otherShown.advanceLine hactive memory sources
  rw [heq] at hotherOk hotherError
  refine ⟨next, heq, ?_, ?_⟩
  · intro report hresult
    exact ⟨hok report hresult, hotherOk report hresult, hrows⟩
  · intro failure hresult
    exact ⟨herror failure hresult, hotherError failure hresult, hrows⟩

/-- A frame starts the same with any pictures, since no row of it has been shown. -/
theorem enterFrame_withPictures (decoder : Decoder) (pictures : Pictures) (memory : Memory) :
    let step := decoder.enterFrame memory
    ∃ next, (decoder.withPictures pictures).enterFrame memory =
        { step with decoder := step.decoder.withPictures next } ∧
      step.decoder.SharesRows next 0 := by
  intro step
  have hother := (decoder.withPictures pictures).hasShown_enterFrame memory
  have hshown : step.decoder.HasShown 0 := decoder.hasShown_enterFrame memory
  let latched := (decoder.withPictures pictures).latchFormat
  let next : Pictures := ⟨latched.planeLines, latched.frame, latched.backdrop⟩
  have heq : (decoder.withPictures pictures).enterFrame memory =
      { step with decoder := step.decoder.withPictures next } := by
    simp only [step, next, latched, enterFrame, withPictures, latchFormat]
    split <;> rfl
  rw [heq] at hother
  refine ⟨next, heq, hshown, hother, ?_⟩
  intro x y hy
  rw [hshown.line_eq, Nat.zero_min] at hy
  cases hy

/-- A frame with the same pixels is finished the same. -/
theorem finishFrame_withPictures (hframe : pictures.frame = decoder.frame) :
    (decoder.withPictures pictures).finishFrame =
      decoder.finishFrame.map fun after ↦
        after.withPictures { pictures with frame := after.frame } := by
  unfold finishFrame
  simp only [withPictures, hframe]
  cases Cursor.draw decoder.frame decoder.registers decoder.blink decoder.format.doubleWidth with
  | error failure => rfl
  | ok frame => rfl

end Decoder

end DualPlaneVideo
