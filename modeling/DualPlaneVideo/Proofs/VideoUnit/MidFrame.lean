import DualPlaneVideo.Proofs.Decoder.ShownRows
import DualPlaneVideo.Proofs.VideoUnit.Tick

/-!
# The course of a frame

After the first line of a frame, whatever the ticks and the accesses before, the rows above the
scanline are opaque and the pictures fit the format that the first line has latched. So the frame
that the last line hands to the renderer is complete.
-/

namespace DualPlaneVideo

namespace VideoUnit

variable {ε : Type} {unit start : VideoUnit} {render : FinishedFrame → Except ε Unit}
  {finished : FinishedFrame}

/-- The unit is on a scanline of a frame whose lines above have been shown. -/
structure MidFrame (unit : VideoUnit) : Prop where
  shown : unit.decoder.HasShown unit.scanline
  lt_totalLines : unit.scanline < unit.decoder.format.totalLines

theorem MidFrame.access (h : unit.MidFrame) (access : Access) : (unit.access access).MidFrame := by
  obtain ⟨ram, readCursors, registers, decoderSettings, settings, haccess⟩ := access_eq unit access
  rw [haccess]
  exact ⟨h.shown.congr rfl rfl rfl (h.shown.fits.congr rfl rfl rfl rfl), h.lt_totalLines⟩

/-- The first line enters a frame, every other is in the midst of one. -/
theorem midFrame_enterFrame (h : unit.scanline ≠ 0 → unit.MidFrame) :
    unit.enterFrame.unit.MidFrame := by
  by_cases hstart : unit.scanline = 0
  · have hshown := unit.decoder.hasShown_enterFrame unit.ram.memory
    have htotal := Nat.lt_trans hshown.regular.activeLines_pos hshown.regular.activeLines_lt
    rw [← hstart] at hshown htotal
    unfold enterFrame
    rw [if_pos hstart]
    dsimp only
    split
    · exact ⟨hshown, htotal⟩
    · exact ⟨hshown, htotal⟩
  · rw [enterFrame_of_ne_zero hstart]
    exact h hstart

theorem MidFrame.showLine_of_ok (h : unit.MidFrame) (hok : unit.showLine.failure? = none) :
    unit.showLine.unit.decoder.HasShown (unit.scanline + 1) := by
  by_cases hactive : unit.scanline < unit.decoder.format.activeLines
  · obtain ⟨report, hreport, hafter⟩ := showLine_of_active hactive hok
    rw [hafter]
    exact (h.shown.advanceLine hactive unit.ram.memory unit.sources).1 report hreport
  · rw [showLine_of_blanking hactive]
    exact h.shown.blanking (Nat.le_of_not_lt hactive)

theorem MidFrame.showLine_of_failure (h : unit.MidFrame) {failure : Failure}
    (hfailure : unit.showLine.failure? = some failure) : unit.showLine.unit.MidFrame := by
  have hformat := format_showLine unit
  have hscanline := scanline_showLine unit
  refine ⟨?_, by rw [hscanline, hformat]; exact h.lt_totalLines⟩
  rw [hscanline]
  unfold showLine at hfailure ⊢
  split
  · rename_i hactive
    rw [if_pos hactive] at hfailure
    dsimp only at hfailure ⊢
    split at hfailure
    · rename_i cause hresult
      exact (h.shown.advanceLine hactive unit.ram.memory unit.sources).2 cause hresult
    · cases hfailure
  · exact h.shown

/-- After a tick the unit is on the first scanline or in the midst of a frame. -/
theorem midFrame_tick (h : unit.scanline ≠ 0 → unit.MidFrame)
    (hpassed : (unit.tick render).unit.scanline ≠ 0) : (unit.tick render).unit.MidFrame := by
  have hentered := midFrame_enterFrame h
  have hcourse := course unit render
  generalize unit.tick render = tick at hcourse hpassed ⊢
  cases hcourse with
  | notEntered hfailure => exact hentered
  | notShown _ hfailure => exact hentered.showLine_of_failure hfailure
  | left _ hok =>
    have hshown := hentered.showLine_of_ok hok
    rw [← scanline_showLine] at hshown
    unfold leaveLine at hpassed ⊢
    dsimp only at hpassed ⊢
    split
    · rename_i hlast
      exact ⟨hshown.congr rfl rfl rfl hshown.fits, hlast⟩
    · rename_i hlast
      rw [if_neg hlast] at hpassed
      split at hpassed
      · exact absurd rfl hpassed
      · exact absurd rfl hpassed

/-! ## The start of a frame -/

/-- Accesses and ticks have brought the unit from the start of a frame to another line of it.
The first tick of the frame has found `start`. -/
inductive InFrame (start : VideoUnit) : VideoUnit → Prop where
  | begun {ε : Type} (render : FinishedFrame → Except ε Unit) (hstart : start.scanline = 0)
      (hpassed : (start.tick render).unit.scanline ≠ 0) : InFrame start (start.tick render).unit
  | access {unit : VideoUnit} (h : InFrame start unit) (access : Access) :
      InFrame start (unit.access access)
  | tick {unit : VideoUnit} {ε : Type} (h : InFrame start unit)
      (render : FinishedFrame → Except ε Unit) (hpassed : (unit.tick render).unit.scanline ≠ 0) :
      InFrame start (unit.tick render).unit

theorem InFrame.scanline_ne_zero (h : InFrame start unit) : unit.scanline ≠ 0 := by
  induction h with
  | begun render hstart hpassed => exact hpassed
  | access h access ih =>
    rw [scanline_access]
    exact ih
  | tick h render hpassed ih => exact hpassed

theorem InFrame.foldl_access (h : InFrame start unit) (accesses : List Access) :
    InFrame start (accesses.foldl VideoUnit.access unit) := by
  induction accesses generalizing unit with
  | nil => exact h
  | cons one rest ih => exact ih (h.access one)

theorem InFrame.midFrame (h : InFrame start unit) : unit.MidFrame := by
  induction h with
  | begun render hstart hpassed => exact midFrame_tick (fun hne ↦ absurd hstart hne) hpassed
  | access h access ih => exact ih.access access
  | tick h render hpassed ih => exact midFrame_tick (fun _ ↦ ih) hpassed

/-- The format is the one that the registers have selected at the start of the frame. -/
theorem InFrame.format (h : InFrame start unit) :
    unit.decoder.format =
      ScreenFormat.ofRegisters start.decoder.registers.system start.decoder.registers.parameters := by
  induction h with
  | begun render hstart hpassed => rw [format_tick, format_enterFrame hstart]
  | access h access ih => rw [format_access, ih]
  | tick h render hpassed ih => rw [format_tick, enterFrame_of_ne_zero h.scanline_ne_zero, ih]

/-- After the first line of a frame there is a unit that the frame has started with. -/
theorem Reachable.exists_inFrame (reachable : unit.Reachable) (h : unit.scanline ≠ 0) :
    ∃ start, start.Reachable ∧ InFrame start unit := by
  induction reachable using Reachable.access_induction with
  | initial settings => exact absurd rfl h
  | access hbefore one ih =>
    rw [scanline_access] at h
    obtain ⟨start, hstart, hframe⟩ := ih h
    exact ⟨start, hstart, hframe.access one⟩
  | reset hbefore ih => exact absurd rfl h
  | @tick unit ε hbefore render ih =>
    by_cases hstart : unit.scanline = 0
    · exact ⟨unit, hbefore, .begun render hstart h⟩
    · obtain ⟨start, hreachable, hframe⟩ := ih hstart
      exact ⟨start, hreachable, hframe.tick render h⟩

/-! ## The end of a frame -/

/-- A frame is presented by the last of its lines, once this has been shown. -/
theorem presented_eq_some (h : (unit.tick render).presented = some finished) :
    let last := unit.enterFrame.unit
    last.showLine.failure? = none ∧ last.decoder.format.totalLines ≤ unit.scanline + 1 ∧
      ∃ decoder, last.showLine.unit.decoder.finishFrame = .ok decoder ∧
        finished.frame = decoder.frame := by
  intro last
  have hcourse := course unit render
  generalize unit.tick render = tick at hcourse h
  cases hcourse with
  | notEntered hfailure => cases h
  | notShown _ hfailure => cases h
  | left _ hok =>
    unfold leaveLine at h
    dsimp only at h
    split at h
    · cases h
    · rename_i hlast
      rw [format_showLine, scanline_showLine, scanline_enterFrame] at hlast
      split at h
      · cases h
      · rename_i decoder hfinish
        cases h
        exact ⟨hok, Nat.le_of_not_lt hlast, decoder, hfinish, rfl⟩

/-- The first line is not the last. -/
theorem ne_zero_of_presented (h : (unit.tick render).presented = some finished) :
    unit.scanline ≠ 0 := by
  intro hstart
  obtain ⟨-, hlast, -⟩ := presented_eq_some h
  rw [format_enterFrame hstart, hstart] at hlast
  have hregular := ScreenFormat.regular_ofRegisters unit.decoder.registers.system
    unit.decoder.registers.parameters
  have hpositive := hregular.activeLines_pos
  have hblanking := hregular.activeLines_lt
  omega

/-- A presented frame has the size of the format, and is opaque. -/
theorem MidFrame.presented (hmid : unit.MidFrame)
    (h : (unit.tick render).presented = some finished) :
    finished.frame.width = unit.decoder.format.screenWidth ∧
      finished.frame.height = unit.decoder.format.activeLines ∧ finished.frame.IsSolid := by
  obtain ⟨hok, hlast, decoder, hfinish, hframe⟩ := presented_eq_some h
  rw [enterFrame_of_ne_zero (ne_zero_of_presented h)] at hok hlast hfinish
  have hshown := hmid.showLine_of_ok hok
  have hfits := hshown.fits.finishFrame hfinish
  obtain ⟨frame, hdraw, rfl⟩ := except_map_eq_ok_iff.mp hfinish
  have hformat := format_showLine unit
  rw [hframe]
  refine ⟨?_, ?_, ?_⟩
  · rw [← hformat]
    exact hfits.width_frame
  · rw [← hformat]
    exact hfits.height_frame
  · -- The last line is a blanking line, so all rows have been shown before the cursor is drawn.
    apply Cursor.isSolid_of_draw hdraw
    apply hshown.isSolid_frame
    rw [hformat]
    exact Nat.le_trans (Nat.le_of_lt hmid.shown.regular.activeLines_lt) hlast

end VideoUnit

end DualPlaneVideo
