import DualPlaneVideo.Proofs.Decoder.DisplayAreas
import DualPlaneVideo.Proofs.Decoder.Interrupts

/-!
# After a line that failed

A line that fails is the next line again. The display control areas stay where they are as well, with
one exception: channel A has passed its area when it is channel B that asks for the reserved pixel
depth, and the line, when it is repeated, goes on with the area behind it.
-/

namespace DualPlaneVideo

namespace Schedule

variable {memory : Memory} {settings : Settings} {registers : RegisterFile}
  {areas : PerPlane DisplayArea} {failure : Failure}

/-- What a failure makes of the areas: they stay where they are, except that channel A has passed
its area before channel B asks for the reserved pixel depth. -/
structure FailedAreas (failure : Failure) (areas : PerPlane DisplayArea) (passed : DisplayArea)
    (after : PerPlane DisplayArea) : Prop where
  b_eq : after.b = areas.b
  a_passed : (∃ value, failure = .reservedPixelDepth .b value) → after.a = passed
  a_kept : (¬ ∃ value, failure = .reservedPixelDepth .b value) → after.a = areas.a

theorem FailedAreas.eq_iff {passed : DisplayArea} {after : PerPlane DisplayArea}
    (h : FailedAreas failure areas passed after) :
    after = areas ↔ ((∃ value, failure = .reservedPixelDepth .b value) → passed = areas.a) := by
  constructor
  · intro hsame hfailsB
    rw [← h.a_passed hfailsB, hsame]
  · intro hpassed
    refine PerPlane.ext ?_ h.b_eq
    by_cases hfailsB : ∃ value, failure = .reservedPixelDepth .b value
    · exact (h.a_passed hfailsB).trans (hpassed hfailsB)
    · exact h.a_kept hfailsB

theorem failedAreas_runDisplayAreas
    (h : (runDisplayAreas memory settings registers areas).requests = .error failure) :
    FailedAreas failure areas
      (passedArea settings registers .a (displayFetches memory settings registers .a areas.a)
        areas.a)
      (runDisplayAreas memory settings registers areas).areas := by
  have hturn (registers : RegisterFile) (plane : Plane) :=
    displayTurn memory settings registers plane (areas.get plane)
  unfold runDisplayAreas at h ⊢
  rcases runChannels_eq_error h with hfirst | ⟨requestA, hfirst, hsecond⟩
  · rw [runChannels_of_error hfirst]
    refine ⟨rfl, ?_, fun _ ↦ (hturn registers .a).area_of_error hfirst⟩
    rintro ⟨value, rfl⟩
    rcases runDisplay_error hfirst with ⟨htooLong, -⟩ | ⟨_, hreserved⟩
    · cases htooLong
    · cases hreserved
  · rw [runChannels_of_ok hfirst]
    refine ⟨(hturn _ .b).area_of_error hsecond, fun _ ↦ area_runDisplay_of_ok hfirst, ?_⟩
    intro hother
    rcases runDisplay_error hsecond with ⟨-, hlength⟩ | hreserved
    · exact area_runDisplay_of_tooLong hlength
    · exact absurd hreserved hother

end Schedule

namespace Decoder

variable {decoder : Decoder} {memory : Memory} {sources : PerPlane (List UInt8)} {plane : Plane}
  {failure : Failure}

/-! ## Why a line cannot be shown -/

theorem decodeLine_error (herror : (decoder.decodeLine plane sources).2 = .error failure) :
    failure.isOutOfBounds = true ∨ failure = .mosaicImage plane := by
  unfold decodeLine at herror
  split at herror
  · rename_i hline
    cases herror
    rcases PlaneLine.decode_error hline with rfl | ⟨rfl, -⟩
    · exact .inl rfl
    · exact .inr rfl
  · split at herror
    · cases herror
    · cases herror
      exact .inl rfl

theorem decodeLines_error (herror : (decoder.decodeLines sources).2 = .error failure) :
    failure.isOutOfBounds = true ∨ ∃ plane, failure = .mosaicImage plane := by
  rcases hA : decoder.decodeLine .a sources with ⟨afterA, cause | consumedA⟩
  · rw [decodeLines_of_error hA] at herror
    cases herror
    exact (decodeLine_error (congrArg Prod.snd hA)).imp_right fun hmosaic ↦ ⟨.a, hmosaic⟩
  · rw [decodeLines_of_ok hA] at herror
    have hB := except_map_eq_error_iff.mp herror
    exact (decodeLine_error hB).imp_right fun hmosaic ↦ ⟨.b, hmosaic⟩

theorem scanLines_error (herror : decoder.scanLines = .error failure) :
    failure.isOutOfBounds = true := by
  unfold scanLines at herror
  dsimp only at herror
  split at herror
  · split at herror
    · cases herror
      rfl
    · cases herror
  · cases herror
    rfl

theorem showLine_error (herror : (decoder.showLine sources).2 = .error failure) :
    failure.isOutOfBounds = true ∨ ∃ plane, failure = .mosaicImage plane := by
  unfold showLine at herror
  split at herror
  · unfold pictureLine at herror
    split at herror
    · rename_i hdecoded
      cases herror
      exact decodeLines_error (congrArg Prod.snd hdecoded)
    · split at herror
      · split at herror
        · rename_i hscan
          cases herror
          exact .inl (scanLines_error hscan)
        · cases herror
      · cases herror
  · unfold blankLine at herror
    split at herror
    · split at herror
      · cases herror
        exact .inl rfl
      · cases herror
    · cases herror

/-- Showing a line never fails as a control program does. -/
theorem showLine_ne_reservedPixelDepth {value : Nat}
    (h : (decoder.showLine sources).2 = .error failure) :
    failure ≠ .reservedPixelDepth plane value := by
  rintro rfl
  rcases showLine_error h with hbounds | ⟨_, hmosaic⟩
  · cases hbounds
  · cases hmosaic

/-! ## Repeating the line -/

/-- Where channel A's turn after the line leaves its area, if it does not fail itself. -/
def passedAreaA (decoder : Decoder) (memory : Memory) (sources : PerPlane (List UInt8)) :
    DisplayArea :=
  Schedule.passedArea decoder.settings decoder.registers .a
    (decoder.lineFetches memory sources .a) decoder.areas.a

/-- A line fails while it is shown or in the programs behind it. -/
theorem advanceLine_of_error
    (herror : (decoder.advanceLine memory sources).result = .error failure) :
    (∃ shown, decoder.showLine sources = (shown, .error failure) ∧
      (decoder.advanceLine memory sources).decoder = shown) ∨
    ∃ shown consumed, decoder.showLine sources = (shown, .ok consumed) ∧
      let ran := Schedule.runDisplayAreas memory shown.settings shown.registers shown.areas
      ran.requests = .error failure ∧
        (decoder.advanceLine memory sources).decoder = shown.afterPrograms ran := by
  unfold advanceLine at herror ⊢
  rcases hshow : decoder.showLine sources with ⟨shown, cause | consumed⟩
  · rw [hshow] at herror
    cases herror
    exact .inl ⟨shown, rfl, rfl⟩
  · refine .inr ⟨shown, consumed, rfl, ?_⟩
    simp only [hshow] at herror ⊢
    cases hran : (Schedule.runDisplayAreas memory shown.settings shown.registers
      shown.areas).requests with
    | error cause =>
      rw [hran] at herror
      cases herror
      exact ⟨rfl, rfl⟩
    | ok requests =>
      rw [hran] at herror
      cases herror

theorem line_advanceLine_of_error
    (herror : (decoder.advanceLine memory sources).result = .error failure) :
    (decoder.advanceLine memory sources).decoder.line = decoder.line := by
  obtain ⟨factors, planeLines, frame, backdrop, hshown⟩ := showLine_fst decoder sources
  rcases advanceLine_of_error herror with ⟨shown, hshow, hafter⟩ | ⟨shown, _, hshow, -, hafter⟩
  all_goals
    rw [hshow] at hshown
    cases hshown
    rw [hafter]
  rfl

theorem failedAreas_advanceLine
    (herror : (decoder.advanceLine memory sources).result = .error failure) :
    Schedule.FailedAreas failure decoder.areas (decoder.passedAreaA memory sources)
      (decoder.advanceLine memory sources).decoder.areas := by
  obtain ⟨factors, planeLines, frame, backdrop, hshown⟩ := showLine_fst decoder sources
  rcases advanceLine_of_error herror with
    ⟨shown, hshow, hafter⟩ | ⟨shown, consumed, hshow, hran, hafter⟩
  · have hcause := congrArg Prod.snd hshow
    rw [hshow] at hshown
    cases hshown
    rw [hafter]
    refine ⟨rfl, ?_, fun _ ↦ rfl⟩
    rintro ⟨value, hvalue⟩
    exact absurd hvalue (showLine_ne_reservedPixelDepth hcause)
  · rw [hafter, passedAreaA, lineFetches, hshow]
    rw [hshow] at hshown
    cases hshown
    exact Schedule.failedAreas_runDisplayAreas hran

/-- On its next lines the decoder takes a channel's instructions from the start of the area. -/
structure TakesUp (decoder : Decoder) (plane : Plane) (area : DisplayArea) : Prop where
  starts : ∀ memory sources, ∀ first ∈ (decoder.lineFetches memory sources plane).head?,
    area = ⟨some first.address, false⟩
  runs : ∀ memory sources start report,
    (decoder.advanceLine memory sources).result = .ok report →
    decoder.registers.system.displayAreaEnabled plane = true →
    area = ⟨some start, false⟩ →
    (decoder.lineFetches memory sources plane).head? =
      if decoder.settings.lineBudget.toNat = 0 then none
      else some ⟨start, ProgramRun.fetch memory start⟩

theorem takesUp (decoder : Decoder) (plane : Plane) :
    decoder.TakesUp plane (decoder.areas.get plane) where
  starts memory sources first hfirst := by
    have hline := lineTurn decoder memory sources plane
    generalize decoder.advanceLine memory sources = step at hline
    generalize decoder.lineFetches memory sources plane = fetched at hline hfirst
    cases hline with
    | skipped harea => cases hfirst
    | taken hturn hfound harea hreport => exact hturn.start_of_head hfirst
  runs memory sources start report hok henabled harea :=
    (lineFetches_of_enabled harea henabled hok).1

/-- A line that fails is the next line again, and the area of channel B stays where it is. When it
is channel B that asks for the reserved pixel depth, channel A has passed its area, and the repeated
line takes up what lies behind; the areas stay where they are exactly if that makes no difference,
and then the repeated line takes up the same areas. -/
theorem failed_line_keeps_areas_iff
    (herror : (decoder.advanceLine memory sources).result = .error failure) :
    let after := (decoder.advanceLine memory sources).decoder
    after.line = decoder.line ∧
      after.areas.b = decoder.areas.b ∧
      ((∃ value, failure = .reservedPixelDepth .b value) →
        after.areas.a = decoder.passedAreaA memory sources ∧
          after.TakesUp .a (decoder.passedAreaA memory sources)) ∧
      (after.areas = decoder.areas ↔
        ((∃ value, failure = .reservedPixelDepth .b value) →
          decoder.passedAreaA memory sources = decoder.areas.a)) ∧
      (after.areas = decoder.areas →
        ∀ plane, after.TakesUp plane (decoder.areas.get plane)) := by
  intro after
  have hareas := failedAreas_advanceLine herror
  refine ⟨line_advanceLine_of_error herror, hareas.b_eq, ?_, hareas.eq_iff, ?_⟩
  · intro hfailsB
    refine ⟨hareas.a_passed hfailsB, ?_⟩
    rw [← hareas.a_passed hfailsB]
    exact after.takesUp .a
  · intro hkept plane
    rw [← hkept]
    exact after.takesUp plane

/-- Both channels select a display control area, and that of channel B asks for the reserved pixel
depth. -/
def reservedDepthOnB : Memory := fun address ↦
  match address.toNat with
  | 0x400 => 0x30
  | 0x402 => 0x10
  | 0x1000 => 0x50
  | 0x80400 => 0x30
  | 0x80402 => 0x20
  | 0x2000 => 0x70
  | 0x2002 => 0x03
  | _ => 0

/-- The display is off, and all control areas are enabled. -/
def programsOfBoth : Decoder :=
  let enabled := ((initial default).write (.system 0x12 0x0300)).write (.system 0x02 0x0300)
  (enabled.enterFrame reservedDepthOnB).decoder

theorem reachable_programsOfBoth : programsOfBoth.Reachable :=
  (((Reachable.initial default).write (.system 0x12 0x0300)).write (.system 0x02 0x0300)).enterFrame
    reservedDepthOnB

theorem areas_programsOfBoth :
    programsOfBoth.areas = ⟨⟨some 0x1000, false⟩, ⟨some 0x2000, false⟩⟩ := by decide +kernel

/-- While the display is off, a line fails as the programs behind it do. -/
theorem result_advanceLine_programsOfBoth
    (hran : (Schedule.runDisplayAreas memory programsOfBoth.settings programsOfBoth.registers
      programsOfBoth.areas).requests = .error failure) :
    (programsOfBoth.advanceLine memory sources).result = .error failure := by
  obtain ⟨frame, hshow⟩ :=
    reachable_programsOfBoth.fitsFormat.showLine_of_disabled (by decide +kernel) sources
  exact advanceLine_eq_error hshow hran

theorem passedAreaA_programsOfBoth (sources : PerPlane (List UInt8)) :
    programsOfBoth.passedAreaA reservedDepthOnB sources = ⟨some 0x1040, false⟩ := by
  obtain ⟨frame, hshow⟩ :=
    reachable_programsOfBoth.fitsFormat.showLine_of_disabled (by decide +kernel) sources
  have hpassed : Schedule.passedArea programsOfBoth.settings programsOfBoth.registers .a
      (Schedule.displayFetches reservedDepthOnB programsOfBoth.settings programsOfBoth.registers .a
        programsOfBoth.areas.a) programsOfBoth.areas.a = ⟨some 0x1040, false⟩ := by decide +kernel
  rw [passedAreaA, lineFetches, hshow]
  exact hpassed

/-- A failure of either channel. -/
theorem failed_line_keeps_areas_iff_either_channel :
    let afterA := (programsOfBoth.advanceLine interruptThenReservedDepth (.both [])).decoder
    let afterB := (programsOfBoth.advanceLine reservedDepthOnB (.both [])).decoder
    afterA.line = 0 ∧
      afterA.areas = programsOfBoth.areas ∧
      (∀ plane, afterA.TakesUp plane (programsOfBoth.areas.get plane)) ∧
      afterB.line = 0 ∧
      afterB.areas.b = programsOfBoth.areas.b ∧
      afterB.TakesUp .a ⟨some 0x1040, false⟩ := by
  have hfailsA : (programsOfBoth.advanceLine interruptThenReservedDepth (.both [])).result =
      .error (.reservedPixelDepth .a 3) := result_advanceLine_programsOfBoth (by decide +kernel)
  have hfailsB : (programsOfBoth.advanceLine reservedDepthOnB (.both [])).result =
      .error (.reservedPixelDepth .b 3) := result_advanceLine_programsOfBoth (by decide +kernel)
  obtain ⟨hlineA, -, -, hareasA, htakesA⟩ := failed_line_keeps_areas_iff hfailsA
  obtain ⟨hlineB, hb, hpassed, -, -⟩ := failed_line_keeps_areas_iff hfailsB
  have hline : programsOfBoth.line = 0 := by decide +kernel
  have hkept := hareasA.mpr fun ⟨value, hvalue⟩ ↦ by cases hvalue
  refine ⟨hlineA.trans hline, hkept, htakesA hkept, hlineB.trans hline, hb, ?_⟩
  rw [← passedAreaA_programsOfBoth (.both [])]
  exact (hpassed ⟨3, rfl⟩).2

/-- A failure of channel B comes when channel A has already passed its area. -/
theorem failed_line_passes_area :
    let failed := programsOfBoth.advanceLine reservedDepthOnB (.both [])
    programsOfBoth.Reachable ∧
      failed.result = .error (.reservedPixelDepth .b 3) ∧
      programsOfBoth.areas.a = ⟨some 0x1000, false⟩ ∧
      failed.decoder.areas.a = ⟨some 0x1040, false⟩ := by
  have hfails : (programsOfBoth.advanceLine reservedDepthOnB (.both [])).result =
      .error (.reservedPixelDepth .b 3) := result_advanceLine_programsOfBoth (by decide +kernel)
  have hpassed := (failedAreas_advanceLine hfails).a_passed ⟨3, rfl⟩
  rw [passedAreaA_programsOfBoth] at hpassed
  exact ⟨reachable_programsOfBoth, hfails, congrArg PerPlane.a areas_programsOfBoth, hpassed⟩

end Decoder

end DualPlaneVideo
