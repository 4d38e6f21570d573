import DualPlaneVideo.Proofs.Arithmetic.ControlProgram
import DualPlaneVideo.Proofs.Arithmetic.Frame
import DualPlaneVideo.Proofs.Arithmetic.PlaneLine
import DualPlaneVideo.Proofs.Arithmetic.Scan

/-!
# The arithmetic of a decoder

The steps of a frame, put together from lines, scans, control programs and the cursor. What a step
calculates ends with its failure. Of all of it only the length of a display control area can overflow,
and the number of a line of which 32 bits are not enough to count it.
-/

namespace DualPlaneVideo

namespace Decoder

variable {decoder : Decoder} {memory : Memory} {sources : PerPlane (List UInt8)}

/-! ## The start of a frame -/

def enterCalculations (decoder : Decoder) (memory : Memory) : List Calculation :=
  let format := ScreenFormat.ofRegisters decoder.registers.system decoder.registers.parameters
  format.calculations decoder.registers.system ++
    decoder.frame.resizeCalculations format.screenWidth format.activeLines ++
    decoder.backdrop.resizeCalculations 1 format.activeLines ++
    Schedule.channelCalculations (Schedule.runInitial memory decoder.settings)
      (fun registers channel _ ↦
        Schedule.initialCalculations memory decoder.settings registers channel)
      decoder.registers decoder.areas

theorem allFit_enterCalculations (decoder : Decoder) (memory : Memory) :
    AllFit (decoder.enterCalculations memory) := by
  have hformat := ScreenFormat.bounded_ofRegisters decoder.registers.system
    decoder.registers.parameters
  simp only [enterCalculations, allFit_append]
  exact ⟨⟨⟨hformat.allFit _,
    Grid.allFit_resizeCalculations _ hformat.screenWidth_le hformat.activeLines_le⟩,
    Grid.allFit_resizeCalculations _ (by decide) hformat.activeLines_le⟩,
    Schedule.allFit_channelCalculations
      (fun _ _ _ ↦ Schedule.allFit_initialCalculations _ _ _ _) _ _⟩

/-! ## A line of the picture -/

/-- Both planes, plane B unless plane A has failed. -/
def decodeCalculations (decoder : Decoder) (sources : PerPlane (List UInt8)) : List Calculation :=
  let width := decoder.format.baseWidth
  PlaneLine.decodeCalculations decoder.registers .a width sources ++
    match (decoder.decodeLine .a sources).2 with
    | .error _ => []
    | .ok _ => PlaneLine.decodeCalculations decoder.registers .b width sources

def scanCalculations (decoder : Decoder) : List Calculation :=
  ⟨.uint32, decoder.format.planeWidth⟩ :: decoder.backdrop.cellCalculations 0 decoder.line ++
    decoder.frame.rowCalculations decoder.line ++
    (LineView.ofRegisters decoder.registers).scanCalculations decoder.planeLines
      (startMatte decoder.registers) decoder.format.baseWidth

def pictureCalculations (decoder : Decoder) (sources : PerPlane (List UInt8)) :
    List Calculation :=
  decoder.decodeCalculations sources ++
    match decoder.decodeLines sources with
    | (_, .error _) => []
    | (decoded, .ok _) =>
      if decoded.line < decoded.format.activeLines then decoded.scanCalculations else []

def blankCalculations (decoder : Decoder) : List Calculation :=
  if decoder.line < decoder.format.activeLines then decoder.frame.rowCalculations decoder.line
  else []

def showCalculations (decoder : Decoder) (sources : PerPlane (List UInt8)) : List Calculation :=
  if decoder.registers.system.displayEnabled then decoder.pictureCalculations sources
  else decoder.blankCalculations

/-- The sizes of a decoder's pictures are those of its format, and its sources are as long as a
line may need and not much longer. -/
structure HasSmallLines (decoder : Decoder) (sources : PerPlane (List UInt8)) : Prop where
  fits : decoder.FitsFormat
  bounded : decoder.format.Bounded
  long : ∀ plane, 2 * decoder.format.planeWidth ≤ (sources.get plane).length
  short : ∀ plane, (sources.get plane).length ≤ 0x10000000

theorem HasSmallLines.allFit_decode (h : decoder.HasSmallLines sources) :
    AllFit (decoder.decodeCalculations sources) := by
  have hwidth : decoder.format.baseWidth ≤ 0x8000000 :=
    Nat.le_trans h.bounded.baseWidth_le (by decide)
  rw [decodeCalculations, allFit_append]
  refine ⟨PlaneLine.allFit_decodeCalculations hwidth h.short, ?_⟩
  split
  · exact allFit_nil
  · exact PlaneLine.allFit_decodeCalculations hwidth h.short

theorem allFit_scanCalculations (hfits : decoder.FitsFormat) (hbounded : decoder.format.Bounded)
    (hline : decoder.line < decoder.format.activeLines) : AllFit decoder.scanCalculations := by
  have hplane := hbounded.planeWidth_le
  have hplace : decoder.line < 560 := Nat.lt_of_lt_of_le hline hbounded.activeLines_le
  simp only [scanCalculations, List.cons_append, allFit_cons, allFit_append,
    Calculation.fits_uint32]
  exact ⟨by omega, ⟨(hfits.small_backdrop hbounded).allFit_cell _ _,
    (hfits.small_frame hbounded).allFit_row hplace⟩, LineView.allFit_scanCalculations _ _ _ _⟩

theorem HasSmallLines.allFit_picture (h : decoder.HasSmallLines sources) :
    AllFit (decoder.pictureCalculations sources) := by
  have hfits := h.fits.decodeLines sources
  obtain ⟨buffers, hdecoded, -⟩ := decodeLines_fst decoder sources
  rw [pictureCalculations, allFit_append]
  refine ⟨h.allFit_decode, ?_⟩
  rcases hrun : decoder.decodeLines sources with ⟨decoded, failure | consumed⟩
  · exact allFit_nil
  · rw [hrun] at hfits hdecoded
    cases hdecoded
    dsimp only
    split
    · rename_i hline
      exact allFit_scanCalculations hfits h.bounded hline
    · exact allFit_nil

theorem HasSmallLines.allFit_show (h : decoder.HasSmallLines sources) :
    AllFit (decoder.showCalculations sources) := by
  unfold showCalculations
  split
  · exact h.allFit_picture
  · unfold blankCalculations
    split
    · rename_i hline
      exact (h.fits.small_frame h.bounded).allFit_row
        (Nat.lt_of_lt_of_le hline h.bounded.activeLines_le)
    · exact allFit_nil

/-! ## A whole line -/

/-- The number of the line after this one. -/
def nextLine (decoder : Decoder) : Calculation := ⟨.uint32, decoder.line + 1⟩

theorem not_fits_nextLine_iff : ¬ decoder.nextLine.Fits ↔ 0xFFFFFFFF ≤ decoder.line := by
  rw [nextLine, Calculation.fits_uint32]
  omega

def advanceCalculations (decoder : Decoder) (memory : Memory) (sources : PerPlane (List UInt8)) :
    List Calculation :=
  decoder.showCalculations sources ++
    match decoder.showLine sources with
    | (_, .error _) => []
    | (shown, .ok _) =>
      Schedule.channelCalculations (Schedule.runDisplay memory shown.settings)
          (Schedule.displayCalculations memory shown.settings) shown.registers shown.areas ++
        match (Schedule.runDisplayAreas memory shown.settings shown.registers
          shown.areas).requests with
        | .error _ => []
        | .ok _ => [shown.nextLine]

/-- Behind a line that has been shown, only the control programs fail. -/
theorem result_advanceLine_of_shown {shown : Decoder} {consumed : PerPlane Nat}
    (hshow : decoder.showLine sources = (shown, .ok consumed)) :
    (decoder.advanceLine memory sources).result =
      (Schedule.runDisplayAreas memory shown.settings shown.registers shown.areas).requests.map
        fun requests ↦ ⟨consumed, requests.map (·.readCursor)⟩ := by
  simp only [advanceLine, hshow]
  split
  · rename_i hrequests
    rw [hrequests]
    rfl
  · rename_i hrequests
    rw [hrequests]
    rfl

/-- A line overflows in the length of an area, and then fails for it, or else in the number of the
line that it goes on to. -/
theorem HasSmallLines.overflows_advance_iff (h : decoder.HasSmallLines sources) (memory : Memory)
    (calculation : Calculation) :
    Overflows (decoder.advanceCalculations memory sources) calculation ↔
      calculation = Schedule.areaProduct decoder.settings ∧
          (decoder.advanceLine memory sources).result = .error .areaTooLong ∨
        calculation = decoder.nextLine ∧ 0xFFFFFFFF ≤ decoder.line ∧
          ∃ report, (decoder.advanceLine memory sources).result = .ok report := by
  obtain ⟨factors, planeLines, frame, backdrop, hshown⟩ := showLine_fst decoder sources
  rw [advanceCalculations, h.allFit_show.overflows_append]
  rcases hrun : decoder.showLine sources with ⟨shown, failure | consumed⟩
  · obtain ⟨plane, rfl⟩ := h.fits.showLine_error h.long (congrArg Prod.snd hrun)
    simp [advanceLine, hrun, allFit_nil.not_overflows]
  · rw [result_advanceLine_of_shown hrun]
    rw [hrun] at hshown
    cases hshown
    dsimp only
    rw [overflows_append, Schedule.overflows_channelCalculations_iff fun registers channel area ↦
      Schedule.overflows_displayCalculations_iff memory decoder.settings registers channel area
        calculation, ← Schedule.runDisplayAreas]
    cases (Schedule.runDisplayAreas memory decoder.settings
      { decoder.registers with contributionFactor := factors } decoder.areas).requests with
    | error failure => simp [Except.map, allFit_nil.not_overflows]
    | ok requests =>
      have hnext : Overflows [decoder.nextLine] calculation ↔
          calculation = decoder.nextLine ∧ 0xFFFFFFFF ≤ decoder.line := by
        rw [overflows_singleton, not_fits_nextLine_iff]
      simpa [Except.map, nextLine] using hnext

/-- A line fails for the length of an area if it has come to run one, in whichever channel. -/
theorem HasSmallLines.advanceLine_areaTooLong_iff (h : decoder.HasSmallLines sources)
    (memory : Memory) :
    (decoder.advanceLine memory sources).result = .error .areaTooLong ↔
      Schedule.areaLength? decoder.settings = none ∧
        (∃ consumed, (decoder.showLine sources).2 = .ok consumed) ∧
        ∃ channel, Schedule.RunsArea decoder.registers channel (decoder.areas.get channel) := by
  obtain ⟨factors, planeLines, frame, backdrop, hshown⟩ := showLine_fst decoder sources
  rcases hrun : decoder.showLine sources with ⟨shown, failure | consumed⟩
  · obtain ⟨plane, rfl⟩ := h.fits.showLine_error h.long (congrArg Prod.snd hrun)
    simp [advanceLine, hrun]
  · rw [result_advanceLine_of_shown hrun, except_map_eq_error_iff,
      Schedule.runDisplayAreas_areaTooLong_iff]
    rw [hrun] at hshown
    cases hshown
    -- Showing a line changes none of the registers that decide whether an area is run.
    have hruns (channel : Plane) :
        Schedule.RunsArea { decoder.registers with contributionFactor := factors } channel
          (decoder.areas.get channel) ↔
        Schedule.RunsArea decoder.registers channel (decoder.areas.get channel) :=
      ⟨fun ⟨henabled, hselected, hrunning⟩ ↦ ⟨henabled, hselected, hrunning⟩,
        fun ⟨henabled, hselected, hrunning⟩ ↦ ⟨henabled, hselected, hrunning⟩⟩
    simp [hruns]

/-! ## The end of a frame -/

def finishCalculations (decoder : Decoder) : List Calculation :=
  Cursor.calculations decoder.frame decoder.registers decoder.blink decoder.format.doubleWidth ++
    match decoder.finishFrame with
    | .error _ => []
    | .ok _ =>
      decoder.blink.calculations decoder.registers.cursorControl decoder.format.sixtyHz

theorem Reachable.allFit_finish (reachable : decoder.Reachable) :
    AllFit decoder.finishCalculations := by
  have hbounded := reachable.of_format ScreenFormat.bounded_ofRegisters
  rw [finishCalculations, allFit_append]
  refine ⟨Cursor.allFit_calculations (reachable.fitsFormat.small_frame hbounded) _ _ _, ?_⟩
  split
  · exact allFit_nil
  · exact Blink.allFit_calculations reachable.blink_fields_lt _ _

end Decoder

end DualPlaneVideo
