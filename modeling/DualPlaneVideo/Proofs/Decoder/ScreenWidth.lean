import DualPlaneVideo.Proofs.Decoder.Registers
import DualPlaneVideo.Proofs.Line.Hold

/-!
# The width of the screen

A screen of double width shows both pixels of every position and any other screen the first, and
that is all the width decides: registers, programs, matte, plane lines and backdrop come out the
same. Where all planes are decoded at normal resolution, the second pixel of a position is the first
once more.
-/

namespace DualPlaneVideo

/-- Every plane that is decoded has the normal resolution. -/
def RegisterFile.DecodesNormal (registers : RegisterFile) : Prop :=
  ∀ plane, LineView.showsImage registers plane = true →
    (registers.parameters.get plane).depth = .normal8

theorem RegisterFile.DecodesNormal.isPaired {registers : RegisterFile} {plane : Plane}
    {baseWidth : Nat} {sources : PerPlane (List UInt8)} {line : PlaneLine}
    (h : registers.DecodesNormal)
    (hline : PlaneLine.decode registers plane baseWidth sources = .ok line) :
    IsPaired line.pixels := by
  by_cases hdirect : registers.codingMethod .b = .rgb555
  · rw [PlaneLine.decode_direct hdirect] at hline
    obtain ⟨decoded, -, rfl⟩ := except_map_eq_ok_iff.mp hline
    cases plane with
    | a => exact isPaired_replicate baseWidth .transparent
    | b =>
      apply PlaneLine.isPaired_ofDecoded
      apply h .b
      simp [LineView.showsImage, hdirect]
  · by_cases hoff : registers.codingMethod plane = .off
    · rw [PlaneLine.decode_off hdirect hoff] at hline
      cases hline
      exact isPaired_replicate baseWidth .transparent
    · rw [PlaneLine.decode_own hdirect hoff] at hline
      obtain ⟨decoded, -, rfl⟩ := except_map_eq_ok_iff.mp hline
      apply PlaneLine.isPaired_ofDecoded
      apply h plane
      simp [LineView.showsImage, hdirect, hoff]

namespace Decoder

variable {decoder after normal double : Decoder} {memory : Memory}
  {sources : PerPlane (List UInt8)} {doubleWidth : Bool} {frame : Grid}

/-- The decoder in front of a screen of this width, with this frame for it. -/
def onScreen (decoder : Decoder) (doubleWidth : Bool) (frame : Grid) : Decoder :=
  { decoder with format := { decoder.format with doubleWidth }, frame }

/-- The same decoder in front of a screen of normal width and in front of one of double width, each
with a frame that fits its screen. -/
structure DifferInWidth (normal double : Decoder) : Prop where
  normalWidth : normal.format.doubleWidth = false
  double_eq : double = normal.onScreen true double.frame
  normalFrame : normal.HasFrame
  doubleFrame : double.HasFrame

theorem onScreen_self (h : decoder.format.doubleWidth = doubleWidth) :
    decoder.onScreen doubleWidth decoder.frame = decoder := by
  subst h
  rfl

/-! ## Decoding -/

theorem decodeLine_onScreen (decoder : Decoder) (doubleWidth : Bool) (frame : Grid) (plane : Plane)
    (sources : PerPlane (List UInt8)) :
    (decoder.onScreen doubleWidth frame).decodeLine plane sources =
      ((decoder.decodeLine plane sources).1.onScreen doubleWidth frame,
        (decoder.decodeLine plane sources).2) := by
  cases hline : PlaneLine.decode decoder.registers plane decoder.format.baseWidth sources with
  | error failure =>
    rw [decodeLine_eq_error hline]
    exact decodeLine_eq_error hline
  | ok line =>
    by_cases hfit : line.pixels.size ≤ (decoder.planeLines.get plane).size
    · rw [decodeLine_eq_ok hline hfit]
      exact decodeLine_eq_ok hline hfit
    · simp only [decodeLine, onScreen, hline, if_neg hfit]
      exact if_neg hfit

theorem decodeLines_onScreen (decoder : Decoder) (doubleWidth : Bool) (frame : Grid)
    (sources : PerPlane (List UInt8)) :
    (decoder.onScreen doubleWidth frame).decodeLines sources =
      ((decoder.decodeLines sources).1.onScreen doubleWidth frame,
        (decoder.decodeLines sources).2) := by
  simp only [decodeLines, decodeLine_onScreen]
  split <;> rfl

/-- The buffers have had room for the lines that are decoded into them. -/
theorem hasPlaneLines_of_decodeLines {consumed : PerPlane Nat}
    (h : decoder.decodeLines sources = (after, .ok consumed)) : after.HasPlaneLines := by
  obtain ⟨buffers, hafter, hsize⟩ := decodeLines_fst decoder sources
  obtain ⟨lines, hlines, hfit, -, -⟩ := decodeLines_eq_ok_iff.mp h
  rw [h] at hafter
  cases hafter
  intro plane
  calc
    decoder.format.planeWidth = (lines.get plane).pixels.size :=
      (PlaneLine.size_decode (hlines plane)).symm
    _ ≤ (decoder.planeLines.get plane).size := hfit plane
    _ = (buffers.get plane).size := (hsize plane).symm

/-! ## Scanning -/

theorem matte_scanRow_onScreen (decoder : Decoder) (doubleWidth : Bool) (frame : Grid) :
    (decoder.onScreen doubleWidth frame).scanRow.matte = decoder.scanRow.matte :=
  (LineView.scan_matte _).trans (LineView.scan_matte _).symm

theorem scannedMatte?_onScreen (decoder : Decoder) (doubleWidth : Bool) (frame : Grid)
    (sources : PerPlane (List UInt8)) :
    (decoder.onScreen doubleWidth frame).scannedMatte? sources = decoder.scannedMatte? sources := by
  have hmatte := fun decoded ↦ matte_scanRow_onScreen decoded doubleWidth frame
  unfold scannedMatte?
  rw [decodeLines_onScreen]
  rcases decoder.decodeLines sources with ⟨decoded, failure | consumed⟩
  · rfl
  · dsimp only
    rw [hmatte]
    rfl

/-- The line gets a row in the frame, which is black while the display is off, and waits for both
planes to be decoded otherwise. -/
structure ShowsLine (decoder : Decoder) (sources : PerPlane (List UInt8)) : Prop where
  line_lt : decoder.line < decoder.format.activeLines
  decoded : decoder.registers.system.displayEnabled = true →
    ∃ after consumed, decoder.decodeLines sources = (after, .ok consumed)

/-- The color of a column of the decoder's line on a screen of this width. -/
def lineColor (decoder : Decoder) (sources : PerPlane (List UInt8)) (doubleWidth : Bool)
    (column : Nat) : Color :=
  if decoder.registers.system.displayEnabled then
    (LineView.ofRegisters decoder.registers).columnColor (decoder.decodeLines sources).1.planeLines
      doubleWidth (startMatte decoder.registers) column
  else .black

/-- The line has its row in the frame. -/
def ShowsRow (decoder : Decoder) (sources : PerPlane (List UInt8)) (doubleWidth : Bool)
    (frame : Grid) : Prop :=
  ∀ column, frame.get? column decoder.line =
    if column < LineView.rowLength doubleWidth decoder.format.baseWidth then
      some (decoder.lineColor sources doubleWidth column)
    else none

/-- What a scan leaves besides the row in the frame. -/
def afterScan (decoder : Decoder) : Decoder :=
  { decoder with
    registers := { decoder.registers with contributionFactor := decoder.scanRow.matte.factors }
    backdrop := decoder.backdrop.set 0 decoder.line (.ofCode decoder.registers.backdrop) }

/-- A scanned row is in the frame, which keeps its size. -/
theorem scanLines_onScreen (hlines : decoder.HasPlaneLines)
    (hframe : (decoder.onScreen doubleWidth frame).HasFrame)
    (hline : decoder.line < decoder.format.activeLines) :
    ∃ next, (decoder.onScreen doubleWidth frame).scanLines =
        .ok (decoder.afterScan.onScreen doubleWidth next) ∧
      next.width = frame.width ∧ next.height = frame.height ∧
      ∀ column, next.get? column decoder.line =
        if column < LineView.rowLength doubleWidth decoder.format.baseWidth then
          some ((LineView.ofRegisters decoder.registers).columnColor decoder.planeLines doubleWidth
            (startMatte decoder.registers) column)
        else none := by
  obtain ⟨next, hrow, hscan⟩ := hframe.scanLines_eq_ok hlines hline
  rw [matte_scanRow_onScreen] at hscan
  refine ⟨next, hscan, Grid.width_of_setRow? hrow, Grid.height_of_setRow? hrow, ?_⟩
  intro column
  have hheight : decoder.line < frame.height := Nat.lt_of_lt_of_eq hline hframe.height_frame.symm
  refine ((Grid.get?_setRow? hrow hheight).trans (if_pos rfl)).trans ?_
  by_cases hcolumn : column < LineView.rowLength doubleWidth decoder.format.baseWidth
  · rw [if_pos hcolumn]
    exact LineView.getElem?_row_scan hcolumn
  · rw [if_neg hcolumn, Array.getElem?_eq_none]
    rw [scanRow, LineView.size_row_scan]
    exact Nat.le_of_not_lt hcolumn

/-- Whatever the screen, the line comes out the same, and the screen's own frame shows its row. -/
def ComesOutSame (decoder : Decoder) (sources : PerPlane (List UInt8))
    (line : Decoder → PerPlane (List UInt8) → Decoder × Except Failure (PerPlane Nat)) : Prop :=
  ∃ (after : Decoder) (result : Except Failure (PerPlane Nat)), ∀ doubleWidth frame,
    (decoder.onScreen doubleWidth frame).HasFrame →
    ∃ next,
      line (decoder.onScreen doubleWidth frame) sources =
        (after.onScreen doubleWidth next, result) ∧
      (after.onScreen doubleWidth next).HasFrame ∧
      (decoder.ShowsLine sources → decoder.ShowsRow sources doubleWidth next)

theorem comesOutSame_pictureLine (sources : PerPlane (List UInt8))
    (henabled : decoder.registers.system.displayEnabled = true) :
    decoder.ComesOutSame sources pictureLine := by
  obtain ⟨buffers, hbuffers, -⟩ := decodeLines_fst decoder sources
  rcases hrun : decoder.decodeLines sources with ⟨decoded, failure | consumed⟩
  all_goals
    rw [hrun] at hbuffers
    cases hbuffers
  · refine ⟨{ decoder with planeLines := buffers }, .error failure, ?_⟩
    intro doubleWidth frame hframe
    refine ⟨frame, ?_, ⟨hframe.width_frame, hframe.height_frame⟩, ?_⟩
    · rw [pictureLine, decodeLines_onScreen, hrun]
    · intro hshows
      obtain ⟨after, consumed, hdecoded⟩ := hshows.decoded henabled
      cases hrun.symm.trans hdecoded
  · by_cases hline : decoder.line < decoder.format.activeLines
    · refine ⟨afterScan { decoder with planeLines := buffers }, .ok consumed, ?_⟩
      intro doubleWidth frame hframe
      obtain ⟨next, hscan, hwidth, hheight, hrow⟩ :=
        scanLines_onScreen (hasPlaneLines_of_decodeLines hrun)
          ⟨hframe.width_frame, hframe.height_frame⟩ hline
      refine ⟨next, ?_, ⟨hwidth.trans hframe.width_frame, hheight.trans hframe.height_frame⟩, ?_⟩
      · rw [pictureLine, decodeLines_onScreen, hrun]
        dsimp only
        rw [hscan]
        exact if_pos hline
      · intro _
        simp only [ShowsRow, lineColor, if_pos henabled, hrun]
        exact hrow
    · refine ⟨{ decoder with planeLines := buffers }, .ok consumed, ?_⟩
      intro doubleWidth frame hframe
      refine ⟨frame, ?_, ⟨hframe.width_frame, hframe.height_frame⟩, ?_⟩
      · rw [pictureLine, decodeLines_onScreen, hrun]
        exact if_neg hline
      · exact fun hshows ↦ absurd hshows.line_lt hline

theorem comesOutSame_blankLine (sources : PerPlane (List UInt8))
    (hdisabled : ¬ decoder.registers.system.displayEnabled = true) :
    decoder.ComesOutSame sources fun decoder _ ↦ decoder.blankLine := by
  refine ⟨decoder, .ok (.both 0), ?_⟩
  intro doubleWidth frame hframe
  obtain ⟨next, hblank, hwidth, hheight, hblack⟩ := hframe.blankLine_eq_ok
  refine ⟨next, hblank,
    ⟨hwidth.trans hframe.width_frame, hheight.trans hframe.height_frame⟩, ?_⟩
  intro hshows
  simp only [ShowsRow, lineColor, if_neg hdisabled]
  exact hblack hshows.line_lt

theorem comesOutSame_showLine (decoder : Decoder) (sources : PerPlane (List UInt8)) :
    decoder.ComesOutSame sources showLine := by
  by_cases henabled : decoder.registers.system.displayEnabled = true
  · obtain ⟨after, result, hline⟩ := comesOutSame_pictureLine sources henabled
    refine ⟨after, result, fun doubleWidth frame hframe ↦ ?_⟩
    obtain ⟨next, hnext, hrest⟩ := hline doubleWidth frame hframe
    exact ⟨next, (if_pos henabled).trans hnext, hrest⟩
  · obtain ⟨after, result, hline⟩ := comesOutSame_blankLine sources henabled
    refine ⟨after, result, fun doubleWidth frame hframe ↦ ?_⟩
    obtain ⟨next, hnext, hrest⟩ := hline doubleWidth frame hframe
    exact ⟨next, (if_neg henabled).trans hnext, hrest⟩

theorem advanceLine_onScreen (decoder : Decoder) (memory : Memory)
    (sources : PerPlane (List UInt8)) :
    ∃ (after : Decoder) (raised : List UInt8) (result : Except Failure LineReport),
      ∀ doubleWidth frame, (decoder.onScreen doubleWidth frame).HasFrame →
        ∃ next, (decoder.onScreen doubleWidth frame).advanceLine memory sources =
            ⟨after.onScreen doubleWidth next, raised, result⟩ ∧
          (after.onScreen doubleWidth next).HasFrame ∧
          (decoder.ShowsLine sources → decoder.ShowsRow sources doubleWidth next) := by
  obtain ⟨shown, result, hshow⟩ := decoder.comesOutSame_showLine sources
  cases result with
  | error failure =>
    refine ⟨shown, [], .error failure, ?_⟩
    intro doubleWidth frame hframe
    obtain ⟨next, hline, hnext, hrow⟩ := hshow doubleWidth frame hframe
    exact ⟨next, by rw [advanceLine, hline], hnext, hrow⟩
  | ok consumed =>
    cases hran : (Schedule.runDisplayAreas memory shown.settings shown.registers
      shown.areas).requests with
    | error failure =>
      refine ⟨shown.afterPrograms (Schedule.runDisplayAreas memory shown.settings shown.registers
        shown.areas), [], .error failure, ?_⟩
      intro doubleWidth frame hframe
      obtain ⟨next, hline, hnext, hrow⟩ := hshow doubleWidth frame hframe
      refine ⟨next, ?_, ⟨hnext.width_frame, hnext.height_frame⟩, hrow⟩
      rw [advanceLine, hline]
      simp only [onScreen, hran]
      rfl
    | ok requests =>
      refine ⟨{ shown.afterPrograms (Schedule.runDisplayAreas memory shown.settings
        shown.registers shown.areas) with line := shown.line + 1 },
        interruptLines shown.settings requests,
        .ok ⟨consumed, requests.map (·.readCursor)⟩, ?_⟩
      intro doubleWidth frame hframe
      obtain ⟨next, hline, hnext, hrow⟩ := hshow doubleWidth frame hframe
      refine ⟨next, ?_, ⟨hnext.width_frame, hnext.height_frame⟩, hrow⟩
      rw [advanceLine, hline]
      simp only [onScreen, hran]
      rfl

/-! ## Pairs of columns -/

/-- The columns of a position show the pixels of a position. -/
theorem lineColor_pair (hnormal : decoder.registers.DecodesNormal)
    (hshows : decoder.ShowsLine sources) {position : Nat}
    (hposition : position < decoder.format.baseWidth) :
    decoder.lineColor sources true (2 * position + 1) =
      decoder.lineColor sources true (2 * position) := by
  unfold lineColor
  split
  case isFalse => rfl
  rename_i henabled
  obtain ⟨after, consumed, hrun⟩ := hshows.decoded henabled
  obtain ⟨lines, hlines, hfit, rfl, -⟩ := decodeLines_eq_ok_iff.mp hrun
  have hpixel (plane : Plane) :
      ((decoder.withLines lines).planeLines.get plane)[2 * position + 1]? =
        ((decoder.withLines lines).planeLines.get plane)[2 * position]? := by
    have hsize := PlaneLine.size_decode (hlines plane)
    rw [getElem?_withLines decoder (hfit plane) (by omega),
      getElem?_withLines decoder (hfit plane) (by omega)]
    exact hnormal.isPaired (hlines plane) position
  have hfirst : 2 * position / 2 = position := by omega
  have hsecond : (2 * position + 1) / 2 = position := by omega
  unfold LineView.columnColor LineView.screenColor
  rw [hrun]
  simp only [LineView.planePixel, if_true, hfirst, hsecond, Array.getD_eq_getD_getElem?, hpixel]

/-- The screen width decides nothing but which pixels of the line the frame shows. A line comes to
the same result, raises the same interrupts, comes to the same steps of the matte and leaves decoders
that differ in width again. If it is shown, then its row on the normal screen is every second
column of its row on the double one, and if all planes are decoded at normal resolution, then the
other columns repeat these. -/
theorem screen_width_only_samples (h : DifferInWidth normal double) (memory : Memory)
    (sources : PerPlane (List UInt8)) :
    let step := normal.advanceLine memory sources
    let doubleStep := double.advanceLine memory sources
    doubleStep.result = step.result ∧
    doubleStep.raised = step.raised ∧
    double.scannedMatte? sources = normal.scannedMatte? sources ∧
    DifferInWidth step.decoder doubleStep.decoder ∧
    (normal.ShowsLine sources →
      (∀ position < normal.format.baseWidth, ∃ color,
        step.decoder.frame.get? position normal.line = some color ∧
          doubleStep.decoder.frame.get? (2 * position) normal.line = some color) ∧
      (normal.registers.DecodesNormal → ∀ position < normal.format.baseWidth,
        doubleStep.decoder.frame.get? (2 * position + 1) normal.line =
          doubleStep.decoder.frame.get? (2 * position) normal.line)) := by
  intro step doubleStep
  obtain ⟨after, raised, result, hadvance⟩ := normal.advanceLine_onScreen memory sources
  have hself := onScreen_self h.normalWidth
  obtain ⟨next, hstep, hnext, hrow⟩ :=
    hadvance false normal.frame (by rw [hself]; exact h.normalFrame)
  obtain ⟨doubleNext, hdoubleStep, hdoubleNext, hdoubleRow⟩ :=
    hadvance true double.frame (by rw [← h.double_eq]; exact h.doubleFrame)
  have hmatte := normal.scannedMatte?_onScreen true double.frame sources
  rw [hself] at hstep
  rw [← h.double_eq] at hdoubleStep hmatte
  have hstep : step = _ := hstep
  have hdoubleStep : doubleStep = _ := hdoubleStep
  rw [hstep, hdoubleStep]
  refine ⟨rfl, rfl, hmatte, ⟨rfl, rfl, hnext, hdoubleNext⟩, fun hshows ↦ ⟨?_, ?_⟩⟩
  · intro position hposition
    have hcolumn : 2 * position < 2 * normal.format.baseWidth := by omega
    refine ⟨normal.lineColor sources false position, ?_, ?_⟩
    · exact (hrow hshows position).trans (if_pos hposition)
    · exact (hdoubleRow hshows (2 * position)).trans (if_pos hcolumn)
  · intro hnormal position hposition
    have hfirst : 2 * position < 2 * normal.format.baseWidth := by omega
    have hsecond : 2 * position + 1 < 2 * normal.format.baseWidth := by omega
    calc
      doubleNext.get? (2 * position + 1) normal.line =
          some (normal.lineColor sources true (2 * position + 1)) :=
        (hdoubleRow hshows _).trans (if_pos hsecond)
      _ = some (normal.lineColor sources true (2 * position)) := by
        rw [lineColor_pair hnormal hshows hposition]
      _ = doubleNext.get? (2 * position) normal.line :=
        ((hdoubleRow hshows _).trans (if_pos hfirst)).symm

/-- Three positions of gray levels on plane A, every second one held, in front of either screen. -/
def heldGrays (doubleWidth : Bool) : Decoder :=
  { initial default with
    registers :=
      { RegisterFile.initial with
        imageCoding := 0x003
        transparency := 0x8
        palette := (Palette.zeroed.write 1 0x101010).write 2 0x202020
        parameters := .both { DisplayParameters.initial with holdFactor := 2, holdEnabled := true }
        system := SystemRegisters.zeroed.write (.displayCommand .a) 0x8000 }
    format := { ScreenFormat.initial with baseWidth := 3, activeLines := 1, doubleWidth }
    planeLines := .both (Array.replicate 6 .transparent)
    frame := .blank (if doubleWidth then 6 else 3) 1
    backdrop := .blank 1 1 }

theorem screen_width_only_samples_held_grays :
    let step := (heldGrays false).advanceLine (fun _ ↦ 0) ⟨[1, 2, 2], []⟩
    let doubleStep := (heldGrays true).advanceLine (fun _ ↦ 0) ⟨[1, 2, 2], []⟩
    step.decoder.frame.get? 1 0 = some (.solid 0x10 0x10 0x10) ∧
      step.decoder.frame.get? 2 0 = some (.solid 0x20 0x20 0x20) ∧
      doubleStep.decoder.frame.get? 4 0 = some (.solid 0x20 0x20 0x20) ∧
      doubleStep.decoder.frame.get? 5 0 = some (.solid 0x20 0x20 0x20) := by
  have hdiffer : DifferInWidth (heldGrays false) (heldGrays true) :=
    ⟨rfl, rfl, ⟨rfl, rfl⟩, ⟨rfl, rfl⟩⟩
  have hshows : (heldGrays false).ShowsLine ⟨[1, 2, 2], []⟩ :=
    ⟨by decide, fun _ ↦ ⟨_, _, rfl⟩⟩
  have hnormal : (heldGrays false).registers.DecodesNormal := by
    intro plane _
    cases plane <;> rfl
  obtain ⟨-, -, -, -, hrows⟩ := screen_width_only_samples hdiffer (fun _ ↦ 0) ⟨[1, 2, 2], []⟩
  obtain ⟨hsamples, hpairs⟩ := hrows hshows
  obtain ⟨color, hcolor, hdouble⟩ := hsamples 2 (by decide)
  have hgray : ((heldGrays false).advanceLine (fun _ ↦ 0) ⟨[1, 2, 2], []⟩).decoder.frame.get? 2 0 =
      some (.solid 0x20 0x20 0x20) := by decide +kernel
  have hlast := hdouble.trans (hcolor.symm.trans hgray)
  exact ⟨by decide +kernel, hgray, hlast, (hpairs hnormal 2 (by decide)).trans hlast⟩

end Decoder

end DualPlaneVideo
