import DualPlaneVideo.Decoder.Frame
import DualPlaneVideo.Proofs.Arithmetic.Calculation
import DualPlaneVideo.Proofs.Grid
import DualPlaneVideo.Proofs.Decoder.Registers

/-!
# The arithmetic of frames

The sizes of a frame follow from its format, and those of a format are small; so is the timer of the
cursor. The position of the cursor is as large as its register allows, also far outside the frame.
-/

namespace DualPlaneVideo

/-! ## Formats -/

namespace ScreenFormat

/-- The largest sizes that registers select. -/
structure Bounded (format : ScreenFormat) : Prop where
  baseWidth_le : format.baseWidth ≤ 384
  activeLines_le : format.activeLines ≤ 560
  totalLines_le : format.totalLines ≤ 624

theorem bounded_ofRegisters (system : SystemRegisters) (parameters : PerPlane DisplayParameters) :
    (ofRegisters system parameters).Bounded := by
  unfold ofRegisters
  constructor
  · dsimp only
    split <;> decide
  · dsimp only
    split <;> split <;> decide
  · dsimp only
    split <;> split <;> decide

variable {format : ScreenFormat}

theorem Bounded.planeWidth_le (h : format.Bounded) : format.planeWidth ≤ 768 :=
  Nat.mul_le_mul_left 2 h.baseWidth_le

theorem Bounded.screenWidth_le (h : format.Bounded) : format.screenWidth ≤ 768 := by
  have hbase := h.baseWidth_le
  have hplane := h.planeWidth_le
  unfold screenWidth
  split <;> omega

/-- The line counts, doubled for an interlaced frame, and the width of plane lines. -/
def calculations (system : SystemRegisters) (format : ScreenFormat) : List Calculation :=
  ⟨.uint32, format.planeWidth⟩ ::
    if system.interlaced then [⟨.uint32, format.activeLines⟩, ⟨.uint32, format.totalLines⟩] else []

theorem Bounded.allFit (h : format.Bounded) (system : SystemRegisters) :
    AllFit (calculations system format) := by
  have hplane := h.planeWidth_le
  have hactive := h.activeLines_le
  have htotal := h.totalLines_le
  rw [calculations, allFit_cons, Calculation.fits_uint32]
  refine ⟨by omega, ?_⟩
  split
  · simp only [allFit_cons, allFit_nil, and_true, Calculation.fits_uint32]
    omega
  · exact allFit_nil

end ScreenFormat

/-! ## Grids -/

namespace Grid

/-- A grid with sizes that registers select. -/
structure Small (grid : Grid) : Prop where
  width_le : grid.width ≤ 768
  height_le : grid.height ≤ 560

/-- The number of pixels of a grid that has to be made anew. -/
def resizeCalculations (grid : Grid) (width height : Nat) : List Calculation :=
  if grid.width = width ∧ grid.height = height then [] else [⟨.uint32, (width * height : Nat)⟩]

theorem allFit_resizeCalculations (grid : Grid) {width height : Nat} (hwidth : width ≤ 768)
    (hheight : height ≤ 560) : AllFit (grid.resizeCalculations width height) := by
  unfold resizeCalculations
  split
  · exact allFit_nil
  · have hsize : width * height ≤ 768 * 560 := Nat.mul_le_mul hwidth hheight
    simp only [allFit_cons, allFit_nil, and_true, Calculation.fits_uint32]
    omega

/-- Where row `y` starts and stops. -/
def rowCalculations (grid : Grid) (y : Nat) : List Calculation :=
  [⟨.uint32, (y * grid.width : Nat)⟩, ⟨.usize, (y * grid.width + grid.width : Nat)⟩]

theorem Small.allFit_row {grid : Grid} (h : grid.Small) {y : Nat} (hy : y < 560) :
    AllFit (grid.rowCalculations y) := by
  have hwidth := h.width_le
  have hstart : y * grid.width ≤ 560 * 768 := Nat.mul_le_mul (Nat.le_of_lt hy) hwidth
  simp only [rowCalculations, allFit_cons, allFit_nil, and_true, Calculation.fits_uint32,
    Calculation.fits_usize]
  omega

/-- The place of a cell, if the grid has it. -/
def cellCalculations (grid : Grid) (x y : Nat) : List Calculation :=
  if x < grid.width ∧ y < grid.height then
    [⟨.uint32, (y * grid.width : Nat)⟩, ⟨.uint32, (y * grid.width + x : Nat)⟩]
  else []

theorem Small.allFit_cell {grid : Grid} (h : grid.Small) (x y : Nat) :
    AllFit (grid.cellCalculations x y) := by
  unfold cellCalculations
  split
  · rename_i hinside
    have hwidth := h.width_le
    have hy : y ≤ 560 := Nat.le_trans (Nat.le_of_lt hinside.2) h.height_le
    have hstart : y * grid.width ≤ 560 * 768 := Nat.mul_le_mul hy hwidth
    simp only [allFit_cons, allFit_nil, and_true, Calculation.fits_uint32]
    omega
  · exact allFit_nil

end Grid

/-! ## The cursor -/

namespace Blink

/-- The fields of the longest phase. -/
theorem period_mul_le (control : Word) (phase : BlinkPhase) (sixtyHz : Bool) :
    period control phase * fieldsPerUnit sixtyHz ≤ 84 := by
  have hperiod : period control phase ≤ 7 := by
    have hon : CursorControl.onPeriod control < 8 := control.field_lt 19 3
    have hoff : CursorControl.offPeriod control < 8 := control.field_lt 16 3
    cases phase <;> simp only [period] <;> omega
  have hunit : fieldsPerUnit sixtyHz ≤ 12 := by cases sixtyHz <;> decide
  exact Nat.mul_le_mul hperiod hunit

/-- A phase is over before the count of its fields reaches the longest period. -/
theorem fields_nextField_lt {blink : Blink} (control : Word) (sixtyHz : Bool) :
    (blink.nextField control sixtyHz).fields < 84 := by
  have hperiod := period_mul_le control blink.phase sixtyHz
  unfold nextField
  split
  · decide
  · split
    · exact Nat.zero_lt_succ 83
    · dsimp only
      omega

def calculations (blink : Blink) (control : Word) (sixtyHz : Bool) : List Calculation :=
  if CursorControl.offPeriod control = 0 then []
  else
    [⟨.uint32, blink.fields + 1⟩,
      ⟨.uint32, (period control blink.phase * fieldsPerUnit sixtyHz : Nat)⟩]

theorem allFit_calculations {blink : Blink} (h : blink.fields < 84) (control : Word)
    (sixtyHz : Bool) : AllFit (blink.calculations control sixtyHz) := by
  have hperiod := period_mul_le control blink.phase sixtyHz
  unfold calculations
  split
  · exact allFit_nil
  · simp only [allFit_cons, allFit_nil, and_true, Calculation.fits_uint32]
    omega

end Blink

namespace Cursor

/-- The rows of the pattern and their set cells, of which each is written pixel by pixel. -/
def patternCalculations (frame : Grid) (pattern : Vector UInt16 16) (left top cellWidth : Nat) :
    List Calculation :=
  (List.finRange 16).flatMap fun row ↦
    ⟨.uint32, (top + row.val : Nat)⟩ ::
      (List.range 16).flatMap fun column ↦
        if (pattern.get row).toNat.testBit (15 - column) then
          let x := left + column * cellWidth
          ⟨.uint32, (column * cellWidth : Nat)⟩ :: ⟨.uint32, x⟩ ::
            (List.range cellWidth).flatMap fun dx ↦
              ⟨.uint32, (x + dx : Nat)⟩ :: frame.cellCalculations (x + dx) (top + row.val)
        else []

theorem allFit_patternCalculations {frame : Grid} (hframe : frame.Small)
    (pattern : Vector UInt16 16) {left top cellWidth : Nat} (hleft : left < 1024)
    (htop : top < 1024) (hcell : cellWidth ≤ 2) :
    AllFit (patternCalculations frame pattern left top cellWidth) := by
  unfold patternCalculations
  simp only [allFit_flatMap, allFit_cons, Calculation.fits_uint32]
  intro row _
  have hrow := row.isLt
  refine ⟨by omega, fun column hcolumn ↦ ?_⟩
  split
  · have hplace : column * cellWidth ≤ 15 * 2 :=
      Nat.mul_le_mul (Nat.le_of_lt_succ (List.mem_range.mp hcolumn)) hcell
    simp only [allFit_cons, allFit_flatMap, Calculation.fits_uint32]
    refine ⟨by omega, by omega, fun dx hdx ↦ ?_⟩
    have hinside : dx < cellWidth := List.mem_range.mp hdx
    exact ⟨by omega, hframe.allFit_cell _ _⟩
  · exact allFit_nil

/-- A cursor that is off, hidden or of double resolution is not drawn. -/
def calculations (frame : Grid) (registers : RegisterFile) (blink : Blink) (doubleWidth : Bool) :
    List Calculation :=
  let x := CursorPosition.x registers.cursorPosition
  let y := CursorPosition.y registers.cursorPosition
  if !CursorControl.enabled registers.cursorControl then []
  else if CursorControl.doubleResolution registers.cursorControl then []
  else
    match blink.color? registers.cursorControl with
    | none => []
    | some _ =>
      if doubleWidth then patternCalculations frame registers.cursorPattern x y 2
      else patternCalculations frame registers.cursorPattern (x / 2) y 1

theorem allFit_calculations {frame : Grid} (hframe : frame.Small) (registers : RegisterFile)
    (blink : Blink) (doubleWidth : Bool) :
    AllFit (calculations frame registers blink doubleWidth) := by
  have hx : CursorPosition.x registers.cursorPosition < 1024 := registers.cursorPosition.field_lt 0 10
  have hy : CursorPosition.y registers.cursorPosition < 1024 := registers.cursorPosition.field_lt 12 10
  unfold calculations
  dsimp only
  split
  · exact allFit_nil
  · split
    · exact allFit_nil
    · split
      · exact allFit_nil
      · split
        · exact allFit_patternCalculations hframe _ hx hy (by decide)
        · exact allFit_patternCalculations hframe _ (by omega) hy (by decide)

end Cursor

/-! ## Reachable decoders -/

namespace Decoder

variable {decoder : Decoder}

theorem FitsFormat.small_frame (h : decoder.FitsFormat) (hformat : decoder.format.Bounded) :
    decoder.frame.Small where
  width_le := by
    rw [h.width_frame]
    exact hformat.screenWidth_le
  height_le := by
    rw [h.height_frame]
    exact hformat.activeLines_le

theorem FitsFormat.small_backdrop (h : decoder.FitsFormat) (hformat : decoder.format.Bounded) :
    decoder.backdrop.Small where
  width_le := by
    rw [h.width_backdrop]
    decide
  height_le := by
    rw [h.height_backdrop]
    exact hformat.activeLines_le

theorem Reachable.blink_fields_lt (reachable : decoder.Reachable) : decoder.blink.fields < 84 := by
  induction reachable using Reachable.registers_induction with
  | initial settings => exact Nat.zero_lt_succ 83
  | registers _ registers _ ih => exact ih
  | reset _ ih => exact Nat.zero_lt_succ 83
  | reload _ settings ih => exact ih
  | @enterFrame decoder _ memory ih =>
    obtain ⟨registers, areas, hentered⟩ := decoder.enterFrame_eq memory
    rw [hentered]
    exact ih
  | advanceLine _ memory sources ih =>
    rw [advanceLine_blink]
    exact ih
  | finishFrame _ hfinish ih =>
    obtain ⟨frame, -, rfl⟩ := except_map_eq_ok_iff.mp hfinish
    exact Blink.fields_nextField_lt _ _

end Decoder

end DualPlaneVideo
