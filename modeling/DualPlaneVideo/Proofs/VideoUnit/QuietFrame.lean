import DualPlaneVideo.Proofs.Decoder.Row
import DualPlaneVideo.Proofs.VideoUnit.Bounds
import DualPlaneVideo.Proofs.VideoUnit.Tick

/-!
# Frames without programs

While no channel is enabled and no image is a mosaic, every line of a frame is shown without a
failure, and of the registers only the contribution factors change.
-/

namespace DualPlaneVideo

/-- No control program runs, and no image is a mosaic. -/
structure RegisterFile.Quiet (registers : RegisterFile) : Prop where
  initialArea : ∀ channel, registers.system.initialAreaEnabled channel = false
  displayArea : ∀ channel, registers.system.displayAreaEnabled channel = false
  kind : ∀ plane, (registers.parameters.get plane).kind ≠ .mosaic

/-- Contribution factors neither start a program nor make an image a mosaic. -/
theorem RegisterFile.Quiet.withFactors {registers : RegisterFile} (h : registers.Quiet)
    (factors : PerPlane UInt8) :
    RegisterFile.Quiet { registers with contributionFactor := factors } where
  initialArea := h.initialArea
  displayArea := h.displayArea
  kind := h.kind

namespace Decoder

variable {decoder shown : Decoder} {sources : PerPlane (List UInt8)}

theorem FitsFormat.exists_showLine (h : decoder.FitsFormat)
    (hlong : ∀ plane, 2 * decoder.format.planeWidth ≤ (sources.get plane).length)
    (hkind : ∀ plane, (decoder.registers.parameters.get plane).kind ≠ .mosaic) :
    ∃ shown consumed, decoder.showLine sources = (shown, .ok consumed) := by
  rw [Decoder.showLine]
  split
  · obtain ⟨lines, hlines⟩ := PlaneLine.exists_lines hlong hkind
    rcases hline : decoder.pictureLine sources with ⟨shown, failure | consumed⟩
    · have herror := (h.pictureLine sources).2 failure (by rw [hline])
      rw [h.decodeLines_eq_ok hlines] at herror
      cases herror
    · exact ⟨shown, consumed, rfl⟩
  · obtain ⟨frame, hblank, -⟩ := h.blankLine_eq_ok
    exact ⟨_, _, hblank⟩

/-- A line of quiet registers is followed by the next, with nothing in between. -/
theorem advanceLine_of_quiet (hquiet : decoder.registers.Quiet) (memory : Memory)
    {consumed : PerPlane Nat} (hshow : decoder.showLine sources = (shown, .ok consumed)) :
    decoder.advanceLine memory sources =
      ⟨{ shown with line := shown.line + 1 }, [], .ok ⟨consumed, .both none⟩⟩ := by
  obtain ⟨factors, hregisters⟩ := showLine_registers decoder sources
  rw [hshow] at hregisters
  have hdisabled (channel : Plane) : shown.registers.system.displayAreaEnabled channel = false := by
    rw [hregisters]
    exact hquiet.displayArea channel
  simp only [advanceLine, hshow, Schedule.runDisplayAreas_of_disabled hdisabled]
  rfl

theorem enterFrame_of_quiet (hquiet : decoder.registers.Quiet) (memory : Memory) :
    (decoder.enterFrame memory).result = .ok (.both none) ∧
      (decoder.enterFrame memory).decoder.registers = decoder.registers := by
  have hdisabled (channel : Plane) :
      decoder.latchFormat.registers.system.initialAreaEnabled channel = false :=
    hquiet.initialArea channel
  simp only [enterFrame, Schedule.runInitialAreas_of_disabled hdisabled]
  exact ⟨rfl, rfl⟩

end Decoder

namespace VideoUnit

variable {ε : Type} {unit : VideoUnit}

theorem enterFrame_of_quiet (hquiet : unit.decoder.registers.Quiet) :
    unit.enterFrame.failure? = none ∧
      unit.enterFrame.unit.decoder.registers = unit.decoder.registers := by
  obtain ⟨hresult, hregisters⟩ := Decoder.enterFrame_of_quiet hquiet unit.ram.memory
  unfold enterFrame
  split
  · simp only [hresult, true_and]
    exact hregisters
  · exact ⟨rfl, rfl⟩

/-- A frame that starts without programs finds the read cursors as they are. -/
theorem readCursors_of_quiet (hquiet : unit.decoder.registers.Quiet) (plane : Plane) :
    unit.enterFrame.unit.readCursors.get plane = unit.readCursors.get plane := by
  obtain ⟨hresult, -⟩ := Decoder.enterFrame_of_quiet hquiet unit.ram.memory
  unfold enterFrame
  split
  · simp only [hresult, reloadCursors, PerPlane.get_ofFn, PerPlane.get_both, Option.getD_none]
  · rfl

theorem advanceLine_of_quiet (hfit : unit.decoder.FitsFormat)
    (hquiet : unit.decoder.registers.Quiet) : ∃ shown consumed,
    unit.decoder.showLine unit.sources = (shown, .ok consumed) ∧
      unit.decoder.advanceLine unit.ram.memory unit.sources =
        ⟨{ shown with line := shown.line + 1 }, [], .ok ⟨consumed, .both none⟩⟩ := by
  have hlong (plane : Plane) :
      2 * unit.decoder.format.planeWidth ≤ (unit.sources.get plane).length := by
    rw [length_sources, windowLength]
    omega
  obtain ⟨shown, consumed, hshow⟩ := hfit.exists_showLine hlong hquiet.kind
  exact ⟨shown, consumed, hshow, Decoder.advanceLine_of_quiet hquiet unit.ram.memory hshow⟩

theorem showLine_of_quiet (hfit : unit.decoder.FitsFormat) (hquiet : unit.decoder.registers.Quiet) :
    unit.showLine.failure? = none ∧
      ∃ factors, unit.showLine.unit.decoder.registers =
        { unit.decoder.registers with contributionFactor := factors } := by
  obtain ⟨shown, consumed, hshow, hadvance⟩ := advanceLine_of_quiet hfit hquiet
  obtain ⟨factors, hregisters⟩ := Decoder.showLine_registers unit.decoder unit.sources
  rw [hshow] at hregisters
  unfold showLine
  split
  · simp only [hadvance, true_and]
    exact ⟨factors, hregisters⟩
  · exact ⟨rfl, unit.decoder.registers.contributionFactor, rfl⟩

/-- With quiet registers neither the start of a frame nor a line of it fails. -/
theorem phases_of_quiet (reachable : unit.Reachable) (hquiet : unit.decoder.registers.Quiet) :
    unit.enterFrame.failure? = none ∧ unit.enterFrame.unit.showLine.failure? = none ∧
      ∃ factors, unit.enterFrame.unit.showLine.unit.decoder.registers =
        { unit.decoder.registers with contributionFactor := factors } := by
  obtain ⟨hentered, hregisters⟩ := enterFrame_of_quiet hquiet
  have hfit := (reachable_enterFrame reachable.decoder).fitsFormat
  rw [← hregisters] at hquiet ⊢
  exact ⟨hentered, showLine_of_quiet hfit hquiet⟩

/-- Before the last line of a frame, a tick of a unit with quiet registers succeeds. -/
theorem tick_of_quiet (reachable : unit.Reachable) (hquiet : unit.decoder.registers.Quiet)
    (hlast : unit.scanline + 1 < unit.enterFrame.unit.decoder.format.totalLines)
    (render : FinishedFrame → Except ε Unit) :
    (unit.tick render).result = .ok false ∧
      ∃ factors, (unit.tick render).unit.decoder.registers =
        { unit.decoder.registers with contributionFactor := factors } := by
  obtain ⟨hentered, hshown, factors, hfactors⟩ := phases_of_quiet reachable hquiet
  have hbefore : unit.enterFrame.unit.showLine.unit.scanline + 1 <
      unit.enterFrame.unit.showLine.unit.decoder.format.totalLines := by
    rwa [scanline_showLine, scanline_enterFrame, format_showLine]
  simp only [tick, hentered, hshown, leaveLine_of_lt hbefore]
  exact ⟨trivial, factors, hfactors⟩

/-- On the last line, a unit with quiet registers presents a frame if the cursor is off. -/
theorem presented_of_quiet (reachable : unit.Reachable) (hquiet : unit.decoder.registers.Quiet)
    (hcursor : CursorControl.enabled unit.decoder.registers.cursorControl = false)
    (hlast : unit.enterFrame.unit.decoder.format.totalLines ≤ unit.scanline + 1)
    (render : FinishedFrame → Except ε Unit) :
    ∃ finished, (unit.tick render).presented = some finished := by
  obtain ⟨hentered, hshown, factors, hfactors⟩ := phases_of_quiet reachable hquiet
  have hbehind : ¬ unit.enterFrame.unit.showLine.unit.scanline + 1 <
      unit.enterFrame.unit.showLine.unit.decoder.format.totalLines := by
    rw [scanline_showLine, scanline_enterFrame, format_showLine]
    exact Nat.not_lt_of_le hlast
  have hoff : CursorControl.enabled
      unit.enterFrame.unit.showLine.unit.decoder.registers.cursorControl = false := by
    rw [hfactors]
    exact hcursor
  simp only [tick, hentered, hshown, leaveLine, if_neg hbehind, Decoder.finishFrame,
    Cursor.draw_of_disabled hoff]
  exact ⟨_, rfl⟩

end VideoUnit

end DualPlaneVideo
