import DualPlaneVideo.Proofs.Arithmetic.Decoder
import DualPlaneVideo.Proofs.VideoUnit.Bounds
import DualPlaneVideo.Proofs.VideoUnit.Consistent
import DualPlaneVideo.Proofs.VideoUnit.RegisterWidths

/-!
# The arithmetic of a tick

A tick calculates what the steps of its decoder do, and besides this the bounds of the memory that a
line is read from and the number of the next line. All of it stays in range, except that the length
of a display control area overflows if the user has set a budget of a quarter of the address space or
more. The tick then fails before the program of the area has run. A decoder that is operated on its own
can also run out of numbers for its lines.
-/

namespace DualPlaneVideo

/-! ## Fields of registers -/

/-- The fields that a tick takes out of registers and source bytes: the type of the value, the lowest
bit of the field and its width. -/
def fieldPlaces : List (IntType × Nat × Nat) :=
  [(.uint32, 0, 2), (.uint32, 0, 4), (.uint32, 0, 6), (.uint32, 0, 8), (.uint32, 0, 10),
    (.uint32, 1, 9), (.uint32, 2, 2), (.uint32, 8, 2), (.uint32, 8, 4), (.uint32, 8, 8),
    (.uint32, 10, 6), (.uint32, 12, 10), (.uint32, 16, 3), (.uint32, 16, 4), (.uint32, 16, 8),
    (.uint32, 19, 3), (.uint32, 20, 4), (.uint16, 0, 4), (.uint16, 0, 5), (.uint16, 4, 4),
    (.uint16, 5, 5), (.uint16, 8, 4), (.uint16, 10, 5), (.uint16, 12, 4), (.uint8, 0, 3),
    (.uint8, 4, 3)]

/-- A field is given by its first and its last bit. Its width follows from these, and its mask from
its width. -/
def fieldCalculations : List Calculation :=
  fieldPlaces.flatMap fun (type, low, width) ↦
    let high := low + width - 1
    [⟨.uint8, (high : Int) - low⟩, ⟨.uint8, (high : Int) - low + 1⟩, ⟨type, (1 <<< width : Nat) - 1⟩]

theorem allFit_fieldCalculations : AllFit fieldCalculations := by
  unfold AllFit
  decide

/-! ## Memory -/

namespace VideoRam

/-- The passes over memory that are left after `copied` of `count` bytes. -/
def passCalculations (count copied : Nat) : List Calculation :=
  if copied < count then
    let chunk := min (count - copied) ramSize
    ⟨.usize, (count : Int) - copied⟩ :: ⟨.usize, (copied + chunk : Nat)⟩ ::
      passCalculations count (copied + chunk)
  else []
termination_by count - copied
decreasing_by
  have : 0 < ramSize := by decide
  omega

/-- A block that is read from an address on: the bytes up to the end of memory, and then passes over
the whole of it. -/
def blockCalculations (address : Word) (count : Nat) : List Calculation :=
  let start := (cell address).val
  let head := min count (ramSize - start)
  ⟨.usize, (ramSize : Int) - start⟩ :: ⟨.usize, (start + head : Nat)⟩ ::
    passCalculations count head

theorem allFit_passCalculations {count : Nat} (hcount : count ≤ 0xFFFFFFFF) (copied : Nat) :
    AllFit (passCalculations count copied) := by
  fun_induction passCalculations count copied with
  | case1 copied hleft chunk ih =>
    have hchunk : chunk ≤ count - copied := Nat.min_le_left _ _
    rw [allFit_cons, allFit_cons, Calculation.fits_usize, Calculation.fits_usize]
    exact ⟨by omega, by omega, ih⟩
  | case2 => exact allFit_nil

theorem allFit_blockCalculations (address : Word) {count : Nat} (hcount : count ≤ 0x10000000) :
    AllFit (blockCalculations address count) := by
  have hstart : (cell address).val < 0x100000 := (cell address).isLt
  have hhead : min count (ramSize - (cell address).val) ≤ count := Nat.min_le_left _ _
  have hsize : ramSize = 0x100000 := rfl
  rw [blockCalculations, allFit_cons, allFit_cons, Calculation.fits_usize, Calculation.fits_usize]
  exact ⟨by omega, by omega, allFit_passCalculations (by omega) _⟩

end VideoRam

theorem Decoder.settings_perform_enterFrame (decoder : Decoder) (memory : Memory) :
    (decoder.perform (.enterFrame memory)).settings = decoder.settings :=
  decoder.enterFrame_settings memory

namespace VideoUnit

variable {ε : Type} {unit : VideoUnit}

/-! ## The parts of a tick -/

def enterCalculations (unit : VideoUnit) : List Calculation :=
  if unit.scanline = 0 then unit.decoder.enterCalculations unit.ram.memory else []

/-- The windows of memory that the planes are decoded from. -/
def windowCalculations (unit : VideoUnit) : List Calculation :=
  let format := unit.decoder.format
  ⟨.uint32, format.planeWidth⟩ :: ⟨.usize, 2 * format.planeWidth⟩ ::
    ⟨.usize, windowLength format⟩ ::
    [unit.readCursors.a, unit.readCursors.b].flatMap fun cursor ↦
      VideoRam.blockCalculations cursor (windowLength format)

def showCalculations (unit : VideoUnit) : List Calculation :=
  if unit.scanline < unit.decoder.format.activeLines then
    unit.windowCalculations ++ unit.decoder.advanceCalculations unit.ram.memory unit.sources
  else []

def leaveCalculations (unit : VideoUnit) : List Calculation :=
  ⟨.uint32, unit.scanline + 1⟩ ::
    if unit.scanline + 1 < unit.decoder.format.totalLines then []
    else unit.decoder.finishCalculations

/-- Everything that a tick calculates. A part that fails is the last one. -/
def tickCalculations (unit : VideoUnit) : List Calculation :=
  fieldCalculations ++ unit.enterCalculations ++
    match unit.enterFrame.failure? with
    | some _ => []
    | none =>
      unit.enterFrame.unit.showCalculations ++
        match unit.enterFrame.unit.showLine.failure? with
        | some _ => []
        | none => unit.enterFrame.unit.showLine.unit.leaveCalculations

/-! ## What stays in range -/

theorem windowLength_le {format : ScreenFormat} (h : format.Bounded) :
    windowLength format ≤ 1538 := by
  have hplane := h.planeWidth_le
  rw [windowLength]
  omega

theorem allFit_windowCalculations (h : unit.decoder.format.Bounded) :
    AllFit unit.windowCalculations := by
  have hplane := h.planeWidth_le
  have hlength := windowLength_le h
  simp only [windowCalculations, allFit_cons, allFit_flatMap, Calculation.fits_uint32,
    Calculation.fits_usize]
  exact ⟨by omega, by omega, by omega,
    fun cursor _ ↦ VideoRam.allFit_blockCalculations cursor (by omega)⟩

theorem hasSmallLines (h : unit.decoder.Reachable) : unit.decoder.HasSmallLines unit.sources where
  fits := h.fitsFormat
  bounded := h.of_format ScreenFormat.bounded_ofRegisters
  long plane := by
    rw [length_sources, windowLength]
    omega
  short plane := by
    rw [length_sources]
    exact Nat.le_trans (windowLength_le (h.of_format ScreenFormat.bounded_ofRegisters)) (by decide)

theorem overflows_show_iff (h : unit.decoder.Reachable) (calculation : Calculation) :
    Overflows unit.showCalculations calculation ↔
      calculation = Schedule.areaProduct unit.decoder.settings ∧
          unit.showLine.failure? = some .areaTooLong ∨
        calculation = unit.decoder.nextLine ∧ 0xFFFFFFFF ≤ unit.decoder.line ∧
          unit.scanline < unit.decoder.format.activeLines ∧ unit.showLine.failure? = none := by
  have hwindow := allFit_windowCalculations (h.of_format ScreenFormat.bounded_ofRegisters)
  unfold showCalculations showLine
  split
  · rename_i hactive
    rw [hwindow.overflows_append, (hasSmallLines h).overflows_advance_iff]
    dsimp only
    split
    · rename_i hresult
      simp [hresult]
    · rename_i hresult
      simp [hresult, hactive]
  · rename_i hblank
    simp [allFit_nil.not_overflows, hblank]

theorem allFit_leave (h : unit.decoder.Reachable) (hscanline : unit.scanline < 624) :
    AllFit unit.leaveCalculations := by
  rw [leaveCalculations, allFit_cons, Calculation.fits_uint32]
  refine ⟨by omega, ?_⟩
  split
  · exact allFit_nil
  · exact h.allFit_finish

theorem allFit_enter (unit : VideoUnit) : AllFit unit.enterCalculations := by
  unfold enterCalculations
  split
  · exact unit.decoder.allFit_enterCalculations unit.ram.memory
  · exact allFit_nil

/-- On the first line a tick starts a frame of its decoder. -/
theorem decoder_enterFrame (unit : VideoUnit) :
    unit.enterFrame.unit.decoder =
      if unit.scanline = 0 then (unit.decoder.enterFrame unit.ram.memory).decoder
      else unit.decoder := by
  unfold enterFrame
  split
  · dsimp only
    split <;> rfl
  · rfl

theorem settings_enterFrame (unit : VideoUnit) :
    unit.enterFrame.unit.decoder.settings = unit.decoder.settings := by
  rw [decoder_enterFrame]
  split
  · exact unit.decoder.enterFrame_settings unit.ram.memory
  · rfl

/-- A frame starts at the first line. -/
theorem line_enterFrame_lt (h : unit.scanline ≠ 0 → unit.decoder.line < 0xFFFFFFFF) :
    unit.enterFrame.unit.decoder.line < 0xFFFFFFFF := by
  rw [decoder_enterFrame]
  by_cases hstart : unit.scanline = 0
  · obtain ⟨registers, areas, hentered⟩ := unit.decoder.enterFrame_eq unit.ram.memory
    rw [if_pos hstart, hentered]
    exact Nat.zero_lt_succ _
  · rw [if_neg hstart]
    exact h hstart

theorem enterFrame_ne_areaTooLong (unit : VideoUnit) :
    unit.enterFrame.failure? ≠ some .areaTooLong := by
  intro h
  unfold VideoUnit.enterFrame Decoder.enterFrame at h
  split at h
  · dsimp only at h
    split at h
    · rename_i failure hfailure
      split at hfailure
      · rename_i hrequests
        obtain ⟨channel, value, rfl⟩ := Schedule.runInitialAreas_error hrequests
        cases hfailure
        cases h
      · cases hfailure
    · cases h
  · cases h

theorem leaveLine_ne_areaTooLong (unit : VideoUnit) (raised : List UInt8)
    (render : FinishedFrame → Except ε Unit) :
    (unit.leaveLine raised render).result ≠ .error (.decoder .areaTooLong) := by
  intro h
  unfold leaveLine at h
  dsimp only at h
  split at h
  · cases h
  · split at h
    · rename_i hfinish
      cases h
      cases Cursor.draw_eq_error (except_map_eq_error_iff.mp hfinish)
    · dsimp only at h
      split at h <;> cases h

/-! ## What overflows -/

/-- The line is one of the picture and is shown, and a channel runs an area behind it. -/
structure RunsArea (unit : VideoUnit) : Prop where
  active : unit.scanline < unit.decoder.format.activeLines
  shown : ∃ consumed, (unit.decoder.showLine unit.sources).2 = .ok consumed
  runs : ∃ channel, Schedule.RunsArea unit.decoder.registers channel (unit.decoder.areas.get channel)

/-- A tick comes to run a display control area, of which 32 bits do not hold the length. -/
structure OverflowsInArea (unit : VideoUnit) : Prop where
  budget_ge : 0x40000000 ≤ unit.decoder.settings.lineBudget.toNat
  entered : unit.enterFrame.failure? = none
  runsArea : unit.enterFrame.unit.RunsArea

/-- A tick completes a line of the picture, after which 32 bits do not hold the number of lines. -/
structure OverflowsInLine (unit : VideoUnit) : Prop where
  line_ge : 0xFFFFFFFF ≤ unit.enterFrame.unit.decoder.line
  entered : unit.enterFrame.failure? = none
  active : unit.enterFrame.unit.scanline < unit.enterFrame.unit.decoder.format.activeLines
  shown : unit.enterFrame.unit.showLine.failure? = none

theorem showLine_areaTooLong_iff (h : unit.decoder.Reachable) :
    unit.showLine.failure? = some .areaTooLong ↔
      0x40000000 ≤ unit.decoder.settings.lineBudget.toNat ∧ unit.RunsArea := by
  have hlength : Schedule.areaLength? unit.decoder.settings = none ↔
      0x40000000 ≤ unit.decoder.settings.lineBudget.toNat := by
    rw [← not_iff_not, ← ne_eq, ← Schedule.fits_areaProduct_iff, Schedule.fits_areaProduct_iff_lt,
      Nat.not_le]
  have hadvance := (hasSmallLines h).advanceLine_areaTooLong_iff unit.ram.memory
  rw [hlength] at hadvance
  unfold showLine
  split
  · rename_i hactive
    have hruns : unit.RunsArea ↔
        (∃ consumed, (unit.decoder.showLine unit.sources).2 = .ok consumed) ∧
          ∃ channel, Schedule.RunsArea unit.decoder.registers channel
            (unit.decoder.areas.get channel) :=
      ⟨fun ⟨_, hshown, hruns⟩ ↦ ⟨hshown, hruns⟩, fun ⟨hshown, hruns⟩ ↦ ⟨hactive, hshown, hruns⟩⟩
    rw [hruns, ← hadvance]
    dsimp only
    split
    · rename_i hresult
      simp [hresult]
    · rename_i hresult
      simp [hresult]
  · rename_i hblank
    exact iff_of_false (by simp) fun ⟨_, hruns⟩ ↦ hblank hruns.active

theorem overflowsInArea_iff (h : unit.decoder.Reachable) :
    unit.OverflowsInArea ↔ unit.enterFrame.failure? = none ∧
      unit.enterFrame.unit.showLine.failure? = some .areaTooLong := by
  rw [showLine_areaTooLong_iff (reachable_enterFrame h), settings_enterFrame]
  exact ⟨fun ⟨hbudget, hentered, hruns⟩ ↦ ⟨hentered, hbudget, hruns⟩,
    fun ⟨hentered, hbudget, hruns⟩ ↦ ⟨hbudget, hentered, hruns⟩⟩

/-- A tick fails for the length of an area exactly where this overflows. -/
theorem result_tick_areaTooLong_iff (h : unit.decoder.Reachable)
    (render : FinishedFrame → Except ε Unit) :
    (unit.tick render).result = .error (.decoder .areaTooLong) ↔ unit.OverflowsInArea := by
  have hnotEntered := enterFrame_ne_areaTooLong unit
  rw [overflowsInArea_iff h, tick]
  cases hfirst : unit.enterFrame.failure? with
  | some failure =>
    rw [hfirst] at hnotEntered
    simpa using hnotEntered
  | none =>
    cases hsecond : unit.enterFrame.unit.showLine.failure? with
    | some failure => simp [hsecond]
    | none => simp [hsecond, leaveLine_ne_areaTooLong]

theorem overflows_tick_iff (h : unit.decoder.Reachable) (hscanline : unit.scanline < 624)
    (calculation : Calculation) :
    Overflows unit.tickCalculations calculation ↔
      calculation = Schedule.areaProduct unit.decoder.settings ∧ unit.OverflowsInArea ∨
        calculation = unit.enterFrame.unit.decoder.nextLine ∧ unit.OverflowsInLine := by
  have hentered := reachable_enterFrame h
  have hfields := allFit_append.mpr ⟨allFit_fieldCalculations, allFit_enter unit⟩
  have hline : unit.OverflowsInLine ↔ unit.enterFrame.failure? = none ∧
      0xFFFFFFFF ≤ unit.enterFrame.unit.decoder.line ∧
      unit.enterFrame.unit.scanline < unit.enterFrame.unit.decoder.format.activeLines ∧
      unit.enterFrame.unit.showLine.failure? = none :=
    ⟨fun ⟨hline, hentered, hactive, hshown⟩ ↦ ⟨hentered, hline, hactive, hshown⟩,
      fun ⟨hentered, hline, hactive, hshown⟩ ↦ ⟨hline, hentered, hactive, hshown⟩⟩
  rw [tickCalculations, hfields.overflows_append, overflowsInArea_iff h, hline]
  cases hfirst : unit.enterFrame.failure? with
  | some failure => simp [allFit_nil.not_overflows]
  | none =>
    -- Nothing overflows behind the line, so only what the line overflows in is left.
    have hleave : ¬ Overflows (match unit.enterFrame.unit.showLine.failure? with
        | some _ => []
        | none => unit.enterFrame.unit.showLine.unit.leaveCalculations) calculation := by
      split
      · exact allFit_nil.not_overflows
      · refine (allFit_leave (reachable_showLine hentered) ?_).not_overflows
        rw [scanline_showLine, scanline_enterFrame]
        exact hscanline
    dsimp only
    rw [overflows_append, or_iff_left hleave, overflows_show_iff hentered, settings_enterFrame]
    simp

/-! ## Attainable units -/

/-- The next line of a frame is one that the format has. -/
theorem Attainable.scanline_lt (attainable : unit.Attainable) : unit.scanline < 624 := by
  induction attainable with
  | initial settings => exact Nat.zero_lt_succ 623
  | @access unit _ one ih =>
    rw [scanline_access]
    exact ih
  | operate _ operation ih => exact ih
  | reset _ ih => exact Nat.zero_lt_succ 623
  | @tick unit _ h render ih =>
    have hshown := reachable_showLine (reachable_enterFrame h.decoder)
    have hlines := (hshown.of_format ScreenFormat.bounded_ofRegisters).totalLines_le
    have hcourse := course unit render
    generalize unit.tick render = tick at hcourse ⊢
    cases hcourse with
    | notEntered hfailure =>
      rw [scanline_enterFrame]
      exact ih
    | notShown _ hfailure =>
      rw [scanline_showLine, scanline_enterFrame]
      exact ih
    | left _ _ =>
      unfold leaveLine
      dsimp only
      split
      · rename_i hnext
        exact Nat.lt_of_lt_of_le hnext hlines
      · split <;> exact Nat.zero_lt_succ 623

/-- In a unit whose decoder is not operated on its own, the lines stay within the frame. -/
theorem Reachable.line_lt (reachable : unit.Reachable) (h : unit.scanline ≠ 0) :
    unit.decoder.line < 0xFFFFFFFF := by
  have hbounded := reachable.decoder.of_format ScreenFormat.bounded_ofRegisters
  have hactive := hbounded.activeLines_le
  rw [reachable.consistent.line_eq h]
  omega

/-- Whatever the settings and the state of a unit, a tick overflows in the length of a display control
area that it comes to run, and fails there, or in the number of a line to which the decoder has been
led without the unit, or not at all. -/
theorem tick_calculations_fit_iff (unit : VideoUnit) (attainable : unit.Attainable) :
    ((∀ calculation ∈ unit.tickCalculations, calculation.Fits) ↔
      ¬ unit.OverflowsInArea ∧ ¬ unit.OverflowsInLine) ∧
    (∀ calculation ∈ unit.tickCalculations, calculation.Fits ∨
      calculation = Schedule.areaProduct unit.decoder.settings ∨
      calculation = unit.enterFrame.unit.decoder.nextLine) ∧
    (∀ (ε : Type) (render : FinishedFrame → Except ε Unit),
      (unit.tick render).result = .error (.decoder .areaTooLong) ↔ unit.OverflowsInArea) ∧
    (unit.Reachable → ¬ unit.OverflowsInLine) := by
  have hoverflows := overflows_tick_iff attainable.decoder attainable.scanline_lt
  refine ⟨?_, ?_, fun ε render ↦ result_tick_areaTooLong_iff attainable.decoder render, ?_⟩
  · rw [← AllFit, allFit_iff_not_overflows]
    constructor
    · exact fun h ↦ ⟨fun harea ↦ h _ ((hoverflows _).mpr (.inl ⟨rfl, harea⟩)),
        fun hline ↦ h _ ((hoverflows _).mpr (.inr ⟨rfl, hline⟩))⟩
    · rintro ⟨harea, hline⟩ calculation hcalculation
      rcases (hoverflows calculation).mp hcalculation with ⟨-, h⟩ | ⟨-, h⟩
      · exact harea h
      · exact hline h
  · intro calculation hmem
    by_cases hfits : calculation.Fits
    · exact .inl hfits
    · exact .inr (((hoverflows calculation).mp ⟨hmem, hfits⟩).imp And.left And.left)
  · exact fun reachable hline ↦
      absurd (line_enterFrame_lt reachable.line_lt) (Nat.not_lt.mpr hline.line_ge)

/-- The initial program of channel A selects a display control area, and both are enabled. -/
def withBudget (budget : UInt32) : VideoUnit :=
  [.loadRam 0x400 [0x30, 0, 0x10, 0], .writeRegister 0x12 0x0300].foldl access
    (initial { (default : Settings) with lineBudget := budget })

theorem reachable_withBudget (budget : UInt32) : (withBudget budget).Reachable :=
  (Reachable.initial _).foldl_access _

theorem lineBudget_withBudget (budget : UInt32) :
    (withBudget budget).decoder.settings.lineBudget = budget := rfl

/-- The largest budget for which no tick overflows, also in a frame that the decoder has started on
another memory. -/
theorem tick_calculations_fit_below_quarter :
    let unit := withBudget 0x3FFFFFFF
    let operated := { unit with decoder := unit.decoder.perform (.enterFrame fun _ ↦ 0xFF) }
    unit.Attainable ∧ AllFit unit.tickCalculations ∧
      operated.Attainable ∧ AllFit operated.tickCalculations := by
  intro unit operated
  have hunit : unit.Reachable := reachable_withBudget 0x3FFFFFFF
  have hoperated : operated.Attainable := hunit.attainable.operate (.enterFrame fun _ ↦ 0xFF)
  have hbudget : unit.decoder.settings.lineBudget = 0x3FFFFFFF := lineBudget_withBudget _
  have hsettings : operated.decoder.settings = unit.decoder.settings :=
    unit.decoder.settings_perform_enterFrame fun _ ↦ 0xFF
  obtain ⟨hfits, -, -, hlines⟩ := tick_calculations_fit_iff unit hunit.attainable
  obtain ⟨hfitsOperated, -⟩ := tick_calculations_fit_iff operated hoperated
  refine ⟨hunit.attainable, hfits.mpr ⟨fun harea ↦ ?_, hlines hunit⟩, hoperated,
    hfitsOperated.mpr ⟨fun harea ↦ ?_, fun hline ↦ ?_⟩⟩
  · have hlarge := harea.budget_ge
    rw [hbudget] at hlarge
    exact absurd hlarge (by decide)
  · have hlarge := harea.budget_ge
    rw [hsettings, hbudget] at hlarge
    exact absurd hlarge (by decide)
  · have hsmall : operated.enterFrame.unit.decoder.line < 0xFFFFFFFF :=
      line_enterFrame_lt fun hstarted ↦ absurd rfl hstarted
    exact absurd hsmall (Nat.not_lt.mpr hline.line_ge)

theorem overflowsInArea_withBudget : (withBudget 0x40000000).OverflowsInArea where
  budget_ge := by decide
  entered := by decide +kernel
  runsArea := by
    have hentered := reachable_enterFrame (reachable_withBudget 0x40000000).decoder
    obtain ⟨frame, hshown⟩ := hentered.fitsFormat.showLine_of_disabled (by decide +kernel)
      (withBudget 0x40000000).enterFrame.unit.sources
    exact {
      active := by decide +kernel
      shown := ⟨_, congrArg Prod.snd hshown⟩
      runs := ⟨.a, by decide +kernel, by decide +kernel, by decide +kernel⟩ }

/-- With a budget of a quarter of the address space the length has 33 bits. -/
theorem tick_calculations_overflow_from_quarter :
    let unit := withBudget 0x40000000
    let length : Calculation := ⟨.uint32, 0x100000000⟩
    unit.Reachable ∧ length ∈ unit.tickCalculations ∧ ¬ length.Fits ∧
      (unit.tick fun _ ↦ (.ok () : Except Unit Unit)).result = .error (.decoder .areaTooLong) := by
  intro unit length
  have hunit : unit.Reachable := reachable_withBudget 0x40000000
  have harea : unit.OverflowsInArea := overflowsInArea_withBudget
  have hlength : length = Schedule.areaProduct unit.decoder.settings := by
    rw [Schedule.areaProduct, lineBudget_withBudget]
    rfl
  obtain ⟨hmem, hfits⟩ : Overflows unit.tickCalculations length :=
    (overflows_tick_iff hunit.decoder hunit.attainable.scanline_lt length).mpr
      (.inl ⟨hlength, harea⟩)
  exact ⟨hunit, hmem, hfits, (result_tick_areaTooLong_iff hunit.decoder _).mpr harea⟩

end VideoUnit

end DualPlaneVideo
