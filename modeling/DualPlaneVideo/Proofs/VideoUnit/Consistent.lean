import DualPlaneVideo.Proofs.VideoUnit.FreshFrame

/-!
# Consistent units

The unit counts the lines of a frame, and so does its decoder, which also holds pictures in the
sizes of the format. In every reachable unit these agree, after ticks that fail no less than after
ticks that succeed. So the status register tells in which part of the frame the unit is.
-/

namespace DualPlaneVideo

namespace VideoUnit

variable {ε : Type} {unit : VideoUnit} {offset : Word}

/-- The pictures of the decoder have the sizes of the format, and its line follows the scanline. -/
structure Consistent (unit : VideoUnit) : Prop where
  width_frame : unit.decoder.frame.width = unit.decoder.format.screenWidth
  height_frame : unit.decoder.frame.height = unit.decoder.format.activeLines
  size_frame : unit.decoder.frame.pixels.size =
    unit.decoder.format.screenWidth * unit.decoder.format.activeLines
  size_planeLines : ∀ plane,
    (unit.decoder.planeLines.get plane).size = unit.decoder.format.planeWidth
  width_backdrop : unit.decoder.backdrop.width = 1
  height_backdrop : unit.decoder.backdrop.height = unit.decoder.format.activeLines
  scanline_lt : unit.scanline < unit.decoder.format.totalLines
  line_eq : unit.scanline ≠ 0 →
    unit.decoder.line = min unit.scanline unit.decoder.format.activeLines

/-- After the first line a reachable unit is in the midst of a frame. -/
theorem Reachable.midFrame (reachable : unit.Reachable) (h : unit.scanline ≠ 0) :
    unit.MidFrame := by
  obtain ⟨start, -, hframe⟩ := reachable.exists_inFrame h
  exact hframe.midFrame

theorem Reachable.scanline_lt (reachable : unit.Reachable) :
    unit.scanline < unit.decoder.format.totalLines := by
  by_cases h : unit.scanline = 0
  · have hregular := reachable.decoder.regular
    rw [h]
    exact Nat.lt_trans hregular.activeLines_pos hregular.activeLines_lt
  · exact (reachable.midFrame h).lt_totalLines

theorem Reachable.consistent (reachable : unit.Reachable) : unit.Consistent where
  width_frame := reachable.decoder.fitsFormat.width_frame
  height_frame := reachable.decoder.fitsFormat.height_frame
  size_frame := by
    rw [unit.decoder.frame.size_pixels, reachable.decoder.fitsFormat.width_frame,
      reachable.decoder.fitsFormat.height_frame]
  size_planeLines := reachable.decoder.fitsFormat.size_planeLines
  width_backdrop := reachable.decoder.fitsFormat.width_backdrop
  height_backdrop := reachable.decoder.fitsFormat.height_backdrop
  scanline_lt := reachable.scanline_lt
  line_eq h := (reachable.midFrame h).shown.line_eq

/-! ## The status register -/

/-- The status register of channel A, at every offset where it is repeated. -/
def IsStatusOfA (offset : Word) : Prop := registerOffset offset = 0x10

instance (offset : Word) : Decidable (IsStatusOfA offset) := inferInstanceAs (Decidable (_ = _))

theorem readRegister_status (h : IsStatusOfA offset) :
    (unit.readRegister offset).1 = if unit.decoder.displayActive then 0x80 else 0 := by
  have hlow : lowBitsPlane? offset = none := by
    rw [lowBitsPlane?, h]
    rfl
  have hstatus : SystemRegister.ofOffset? offset = some (.controlStatus .a) := by
    rw [SystemRegister.ofOffset?, h]
    rfl
  rw [readRegister, hlow]
  dsimp only
  rw [Decoder.readSystem, hstatus]

theorem testBit_status_iff (h : IsStatusOfA offset) :
    (unit.readRegister offset).1.toNat.testBit 7 = true ↔ unit.decoder.displayActive = true := by
  rw [readRegister_status h]
  cases unit.decoder.displayActive <;> decide

/-- The decoder has active lines left as long as the scanline is an active one. -/
theorem Consistent.displayActive_iff (hunit : unit.Consistent) (hstarted : unit.scanline ≠ 0) :
    unit.decoder.displayActive = true ↔
      unit.decoder.registers.system.displayEnabled = true ∧
        unit.scanline < unit.decoder.format.activeLines := by
  have hline : min unit.scanline unit.decoder.format.activeLines <
      unit.decoder.format.activeLines ↔ unit.scanline < unit.decoder.format.activeLines := by omega
  rw [Decoder.displayActive, hunit.line_eq hstarted, Bool.and_eq_true, decide_eq_true_iff, hline]

/-- Every reachable unit is consistent; so, once the first line of a frame has been left, the status
register of channel A shows the display as active exactly while it is enabled and the scanline is an
active one. -/
theorem reachable_consistent (reachable : unit.Reachable) :
    unit.Consistent ∧
      (unit.scanline ≠ 0 → ∀ offset, IsStatusOfA offset →
        ((unit.readRegister offset).1.toNat.testBit 7 = true ↔
          unit.decoder.registers.system.displayEnabled = true ∧
            unit.scanline < unit.decoder.format.activeLines)) := by
  refine ⟨reachable.consistent, fun hstarted offset hoffset ↦ ?_⟩
  rw [testBit_status_iff hoffset]
  exact reachable.consistent.displayActive_iff hstarted

/-- A line of the image at the end of memory, behind the first. -/
theorem atTick_imageAtEndOfMemory {n : Nat} (hn : n + 1 < 312)
    (render : FinishedFrame → Except ε Unit) :
    let unit := imageAtEndOfMemory.atTick (idleTicks render) (n + 1)
    unit.Reachable ∧ unit.scanline = n + 1 ∧ unit.decoder.format = ⟨360, 280, 312, false, false⟩ ∧
      unit.decoder.registers.system.displayEnabled = true := by
  have hline : n + 1 < (imageAtEndOfMemory.frameFormat (idleTicks render)).totalLines := by
    rwa [frameFormat_imageAtEndOfMemory]
  obtain ⟨hruns, hreachable, factors, hregisters⟩ :=
    runsTo_of_quiet reachable_imageAtEndOfMemory rfl quiet_imageAtEndOfMemory hline
  refine ⟨hreachable, hruns.atLine.1, ?_, ?_⟩
  · rw [hruns.inFrame.format, ← frameFormat_idleTicks render rfl]
    exact frameFormat_imageAtEndOfMemory render
  · rw [hregisters]
    dsimp only
    decide +kernel

/-- Wide interlaced frames at sixty fields are selected, but the initial program asks for the
reserved pixel depth. -/
def failingStart : VideoUnit :=
  [.writeRegister 0x12 0xF200, .loadRam 0x400 [0x70, 0, 3, 0]].foldl access (initial default)

theorem result_failingStart (render : FinishedFrame → Except ε Unit) :
    (failingStart.tick render).result = .error (.decoder (.reservedPixelDepth .a 3)) := by
  have hfails : failingStart.enterFrame.failure? = some (.reservedPixelDepth .a 3) := by
    decide +kernel
  simp only [tick, hfails]

/-- An active line, a blanking line, and a frame that cannot start. -/
theorem reachable_consistent_active_blanking_failing :
    let render := fun _ ↦ (.ok () : Except Unit Unit)
    let active := imageAtEndOfMemory.atTick (idleTicks render) 100
    let blanking := imageAtEndOfMemory.atTick (idleTicks render) 290
    let failing := failingStart.tick render
    active.decoder.line = 100 ∧ (active.readRegister 0x10).1.toNat.testBit 7 = true ∧
      blanking.decoder.line = 280 ∧ (blanking.readRegister 0x31).1.toNat.testBit 7 = false ∧
      failing.result = .error (.decoder (.reservedPixelDepth .a 3)) ∧
        failing.unit.decoder.frame.pixels.size = 384 * 480 := by
  dsimp only
  obtain ⟨hactive, hscanline, hformat, henabled⟩ := atTick_imageAtEndOfMemory
    (n := 99) (by decide) fun _ ↦ (.ok () : Except Unit Unit)
  obtain ⟨hblanking, hbehind, hsame, -⟩ := atTick_imageAtEndOfMemory
    (n := 289) (by decide) fun _ ↦ (.ok () : Except Unit Unit)
  obtain ⟨hunit, hstatus⟩ := reachable_consistent hactive
  obtain ⟨hother, hotherStatus⟩ := reachable_consistent hblanking
  have hfailing : failingStart.Reachable := (Reachable.initial default).foldl_access _
  have hlatched := (format_tick failingStart fun _ ↦ (.ok () : Except Unit Unit)).trans
    (format_enterFrame rfl)
  obtain ⟨hsizes, -⟩ := reachable_consistent
    (hfailing.tick fun _ ↦ (.ok () : Except Unit Unit))
  have hstarted := ne_of_eq_of_ne hscanline (Nat.succ_ne_zero 99)
  have hotherStarted := ne_of_eq_of_ne hbehind (Nat.succ_ne_zero 289)
  refine ⟨?_, ?_, ?_, ?_, result_failingStart _, ?_⟩
  · rw [hunit.line_eq hstarted, hscanline, hformat]
    rfl
  · refine (hstatus hstarted 0x10 (by decide)).mpr ⟨henabled, ?_⟩
    rw [hscanline, hformat]
    decide
  · rw [hother.line_eq hotherStarted, hbehind, hsame]
    rfl
  · rw [Bool.eq_false_iff]
    intro hset
    obtain ⟨-, hlt⟩ := (hotherStatus hotherStarted 0x31 (by decide)).mp hset
    rw [hbehind, hsame] at hlt
    exact absurd hlt (by decide)
  · rw [hsizes.size_frame, hlatched]
    decide +kernel

end VideoUnit

end DualPlaneVideo
