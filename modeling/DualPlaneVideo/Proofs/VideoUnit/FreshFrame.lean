import DualPlaneVideo.Proofs.VideoUnit.ImageFetch
import DualPlaneVideo.Proofs.VideoUnit.MidFrame

/-!
# Complete and fresh frames

A frame that is presented is complete, and nothing in it is left over from an earlier picture: a
unit on the first line behaves the same whatever its pictures are. In the midst of a frame other
pictures make no difference as long as they share the rows that the frame has shown.
-/

namespace DualPlaneVideo

namespace VideoUnit

variable {ε : Type} {unit : VideoUnit} {pictures : Pictures}

/-- The unit with other pictures. -/
def withPictures (unit : VideoUnit) (pictures : Pictures) : VideoUnit :=
  { unit with decoder := unit.decoder.withPictures pictures }

/-- The unit with another format and other pictures. -/
def withScreen (unit : VideoUnit) (format : ScreenFormat) (pictures : Pictures) : VideoUnit :=
  { unit with decoder := unit.decoder.withScreen format pictures }

/-- The pictures share with the unit what the present frame has shown, which is nothing on the first
line. -/
def SharesFrame (unit : VideoUnit) (pictures : Pictures) : Prop :=
  unit.scanline ≠ 0 → unit.decoder.SharesRows pictures unit.scanline

/-! ## Accesses -/

/-- What an access does to the unit does not depend on the screen. -/
theorem access_withScreen (unit : VideoUnit) (format : ScreenFormat) (pictures : Pictures)
    (access : Access) :
    (unit.withScreen format pictures).access access =
      (unit.access access).withScreen format pictures := by
  cases access with
  | loadRam address bytes => rfl
  | setByte address value => rfl
  | setWord address value => rfl
  | readRegister offset =>
    have hread := unit.decoder.readSystem_withScreen_snd format pictures offset
    simp only [VideoUnit.access, readRegister]
    split
    · rfl
    · simp only [withScreen, hread]
  | writeRegister offset value =>
    have hwrite := unit.decoder.write_withScreen format pictures (.system offset value)
    simp only [Decoder.write] at hwrite
    simp only [VideoUnit.access, writeRegister]
    split
    · rfl
    · simp only [withScreen, hwrite]
      split <;> rfl
  | writeDecoder write =>
    have hwrite := unit.decoder.write_withScreen format pictures write
    simp only [VideoUnit.access, withScreen, hwrite]
  | reload settings => rfl

theorem access_withPictures (unit : VideoUnit) (pictures : Pictures) (access : Access) :
    (unit.withPictures pictures).access access = (unit.access access).withPictures pictures := by
  have hscreen := unit.access_withScreen unit.decoder.format pictures access
  obtain ⟨ram, readCursors, registers, decoderSettings, settings, haccess⟩ := access_eq unit access
  rw [haccess] at hscreen ⊢
  exact hscreen

theorem SharesFrame.access (h : unit.SharesFrame pictures) (access : Access) :
    (unit.access access).SharesFrame pictures := by
  obtain ⟨ram, readCursors, registers, decoderSettings, settings, haccess⟩ := access_eq unit access
  rw [haccess]
  intro hne
  obtain ⟨hshown, hother, hrows⟩ := h hne
  exact ⟨hshown.congr rfl rfl rfl (hshown.fits.congr rfl rfl rfl rfl),
    hother.congr rfl rfl rfl (hother.fits.congr rfl rfl rfl rfl), hrows⟩

/-! ## Ticks -/

theorem SharesFrame.enterFrame (h : unit.SharesFrame pictures) :
    let phase := unit.enterFrame
    ∃ next, (unit.withPictures pictures).enterFrame =
        { phase with unit := phase.unit.withPictures next } ∧
      phase.unit.decoder.SharesRows next unit.scanline := by
  intro phase
  by_cases hstart : unit.scanline = 0
  · have hother : (unit.withPictures pictures).scanline = 0 := hstart
    obtain ⟨next, heq, hshares⟩ :=
      unit.decoder.enterFrame_withPictures pictures unit.ram.memory
    refine ⟨next, ?_, ?_⟩
    · simp only [phase, VideoUnit.enterFrame, if_pos hstart, if_pos hother]
      simp only [withPictures, heq]
      split <;> rfl
    · simp only [phase, VideoUnit.enterFrame, if_pos hstart]
      rw [hstart]
      split
      · exact hshares
      · exact hshares
  · have hother : (unit.withPictures pictures).scanline ≠ 0 := hstart
    simp only [phase, enterFrame_of_ne_zero hstart, enterFrame_of_ne_zero hother]
    exact ⟨pictures, rfl, h hstart⟩

theorem showLine_withPictures (h : unit.decoder.SharesRows pictures unit.scanline) :
    let phase := unit.showLine
    ∃ next, (unit.withPictures pictures).showLine =
        { phase with unit := phase.unit.withPictures next } ∧
      (phase.failure? = none → phase.unit.decoder.SharesRows next (unit.scanline + 1)) ∧
      ∀ failure, phase.failure? = some failure →
        phase.unit.decoder.SharesRows next unit.scanline := by
  intro phase
  by_cases hactive : unit.scanline < unit.decoder.format.activeLines
  · have hother : (unit.withPictures pictures).scanline <
        (unit.withPictures pictures).decoder.format.activeLines := hactive
    have hsources : (unit.withPictures pictures).sources = unit.sources := rfl
    obtain ⟨next, heq, hok, herror⟩ := h.advanceLine hactive unit.ram.memory unit.sources
    refine ⟨next, ?_, ?_, ?_⟩
    · simp only [phase, showLine, if_pos hactive, if_pos hother, hsources]
      simp only [withPictures, heq]
      split <;> rfl
    · intro hnone
      obtain ⟨report, hreport, hafter⟩ := showLine_of_active hactive hnone
      simp only [phase, hafter]
      exact hok report hreport
    · intro failure hfailure
      simp only [phase, showLine, if_pos hactive] at hfailure ⊢
      split at hfailure
      · rename_i cause hcause
        exact herror cause hcause
      · cases hfailure
  · have hother : ¬ (unit.withPictures pictures).scanline <
        (unit.withPictures pictures).decoder.format.activeLines := hactive
    simp only [phase, showLine_of_blanking hactive, showLine_of_blanking hother]
    refine ⟨pictures, rfl, ?_, ?_⟩
    · intro _
      exact h.blanking (Nat.le_of_not_lt hactive)
    · intro failure hfailure
      cases hfailure

/-- The last line finds the same frame with these pictures, and every other goes on with them. -/
theorem leaveLine_withPictures (h : unit.decoder.SharesRows pictures (unit.scanline + 1))
    (raised : List UInt8) (render : FinishedFrame → Except ε Unit) :
    let tick := unit.leaveLine raised render
    ∃ next, (unit.withPictures pictures).leaveLine raised render =
        { tick with unit := tick.unit.withPictures next } ∧ tick.unit.SharesFrame next := by
  intro tick
  by_cases hlast : unit.scanline + 1 < unit.decoder.format.totalLines
  · have hother : (unit.withPictures pictures).scanline + 1 <
        (unit.withPictures pictures).decoder.format.totalLines := hlast
    simp only [tick, leaveLine_of_lt hlast, leaveLine_of_lt hother]
    exact ⟨pictures, rfl, fun _ ↦ h⟩
  · -- By now the frame has shown all of its rows, so there is none left to differ in.
    have hshown : unit.decoder.format.activeLines ≤ unit.scanline + 1 :=
      Nat.le_trans (Nat.le_of_lt h.shown.regular.activeLines_lt) (Nat.le_of_not_lt hlast)
    have hother : ¬ (unit.withPictures pictures).scanline + 1 <
        (unit.withPictures pictures).decoder.format.totalLines := hlast
    have hfinish := Decoder.finishFrame_withPictures (h.frame_eq hshown)
    simp only [tick, leaveLine, if_neg hlast, if_neg hother]
    simp only [withPictures, hfinish]
    cases unit.decoder.finishFrame with
    | error failure => exact ⟨pictures, rfl, fun hne ↦ absurd rfl hne⟩
    | ok after =>
      exact ⟨{ pictures with frame := after.frame }, rfl, fun hne ↦ absurd rfl hne⟩

theorem SharesFrame.tick (h : unit.SharesFrame pictures)
    (render : FinishedFrame → Except ε Unit) :
    let tick := unit.tick render
    ∃ next, (unit.withPictures pictures).tick render =
        { tick with unit := tick.unit.withPictures next } ∧ tick.unit.SharesFrame next := by
  intro tick
  obtain ⟨entered, hentered, hbefore⟩ := h.enterFrame
  rw [← scanline_enterFrame] at hbefore
  obtain ⟨shown, hshown, hok, herror⟩ := showLine_withPictures hbefore
  simp only [tick, VideoUnit.tick, hentered, hshown]
  split
  · exact ⟨entered, rfl, fun _ ↦ hbefore⟩
  · split
    · rename_i failure hfailure
      refine ⟨shown, rfl, fun _ ↦ ?_⟩
      simp only [scanline_showLine]
      exact herror failure hfailure
    · rename_i hnone
      have hafter := hok hnone
      rw [← scanline_showLine] at hafter
      exact leaveLine_withPictures hafter _ render

/-! ## Whole runs -/

/-- What happens to a unit: an access of the bus or the user, a reset, or a tick. -/
inductive Operation (ε : Type) where
  | access (access : Access)
  | reset
  | tick (render : FinishedFrame → Except ε Unit)

/-- What a tick shows to the outside: interrupts, a frame for the renderer, and its result. -/
structure Outcome (ε : Type) where
  raised : List UInt8
  presented : Option FinishedFrame
  result : Except (TickFailure ε) Bool

/-- What the ticks among the operations show, one after the other, whether they fail or not. -/
def outcomes (unit : VideoUnit) : List (Operation ε) → List (Outcome ε)
  | [] => []
  | .access one :: rest => (unit.access one).outcomes rest
  | .reset :: rest => unit.reset.outcomes rest
  | .tick render :: rest =>
    let tick := unit.tick render
    ⟨tick.raised, tick.presented, tick.result⟩ :: tick.unit.outcomes rest

/-- A unit with other pictures shows the same, while they share the present frame. -/
theorem SharesFrame.outcomes (h : unit.SharesFrame pictures) (operations : List (Operation ε)) :
    (unit.withPictures pictures).outcomes operations = unit.outcomes operations := by
  induction operations generalizing unit pictures with
  | nil => rfl
  | cons operation rest ih =>
    cases operation with
    | access one =>
      simp only [VideoUnit.outcomes]
      rw [access_withPictures]
      exact ih (h.access one)
    | reset =>
      have hfirst : unit.reset.SharesFrame { pictures with frame := pictures.frame.fill .black } :=
        fun hne ↦ absurd rfl hne
      exact ih hfirst
    | tick render =>
      obtain ⟨next, heq, hnext⟩ := h.tick render
      simp only [VideoUnit.outcomes, heq, ih hnext]

/-! ## Frames that run to their end -/

variable {ticks : Nat → FrameTick ε} {n : Nat}

/-- A tick of the frame that is not its last does not come back to the first line. -/
theorem RunsTo.scanline_tick (h : RunsTo unit ticks (n + 1)) :
    ((unit.atTick ticks n).tick (ticks n).render).unit.scanline ≠ 0 := by
  have hscanline := h.atLine.1
  rw [atTick, foldl_access_scanline] at hscanline
  rw [hscanline]
  exact Nat.succ_ne_zero n

/-- The frame in which a later tick finds the unit has started with the first tick. -/
theorem RunsTo.inFrame (h : RunsTo unit ticks (n + 1)) :
    InFrame (unit.atTick ticks 0) (unit.atTick ticks (n + 1)) := by
  induction n with
  | zero =>
    apply InFrame.foldl_access
    exact .begun _ h.of_succ.atLine.1 h.scanline_tick
  | succ n ih =>
    apply InFrame.foldl_access
    exact (ih h.of_succ).tick _ h.scanline_tick

/-- Without programs and without a cursor, the last tick of a frame presents it. -/
theorem presented_idleTicks {render : FinishedFrame → Except ε Unit} (reachable : unit.Reachable)
    (hstart : unit.scanline = 0) (hquiet : unit.decoder.registers.Quiet)
    (hcursor : CursorControl.enabled unit.decoder.registers.cursorControl = false)
    (hlast : n + 1 = (unit.frameFormat (idleTicks render)).totalLines) :
    ∃ finished, ((unit.atTick (idleTicks render) n).tick render).presented = some finished := by
  obtain ⟨hruns, hreachable, factors, hregisters⟩ :=
    runsTo_of_quiet reachable hstart hquiet (Nat.lt_of_succ_le (Nat.le_of_eq hlast))
  apply presented_of_quiet hreachable
  · rw [hregisters]
    exact hquiet.withFactors factors
  · rw [hregisters]
    exact hcursor
  · rw [hruns.atLine.1, hlast]
    exact Nat.le_of_eq (congrArg ScreenFormat.totalLines hruns.atLine.2)

/-- Every frame that a reachable unit presents is complete: it has as many pixels as its size asks
for, all of them are opaque, and the size is the one that the registers selected when the frame
started. And it is fresh: from the first line on, two units that differ in their pictures only show
the same in every course of operations, failing ticks included. -/
theorem presented_frames_complete_and_fresh :
    (∀ unit : VideoUnit, unit.Reachable →
      ∀ (ε : Type) (render : FinishedFrame → Except ε Unit) (finished : FinishedFrame),
        (unit.tick render).presented = some finished →
          finished.frame.pixels.size = finished.frame.width * finished.frame.height ∧
          (∀ pixel ∈ finished.frame.pixels, pixel.alpha = 255) ∧
          (∃ start, start.Reachable ∧ InFrame start unit) ∧
          ∀ start, InFrame start unit →
            let format := ScreenFormat.ofRegisters start.decoder.registers.system
              start.decoder.registers.parameters
            finished.frame.width = format.screenWidth ∧
              finished.frame.height = format.activeLines) ∧
    ∀ (ε : Type) (unit : VideoUnit) (pictures : Pictures) (operations : List (Operation ε)),
      unit.scanline = 0 →
        (unit.withPictures pictures).outcomes operations = unit.outcomes operations := by
  constructor
  · intro unit reachable ε render finished hpresented
    obtain ⟨origin, horigin, hframe⟩ :=
      reachable.exists_inFrame (ne_zero_of_presented hpresented)
    obtain ⟨hwidth, hheight, hsolid⟩ := hframe.midFrame.presented hpresented
    refine ⟨finished.frame.size_pixels, ?_, ⟨origin, horigin, hframe⟩, ?_⟩
    · intro pixel hpixel
      exact hsolid.of_mem hpixel
    · intro start hstart format
      rw [hstart.format] at hwidth hheight
      exact ⟨hwidth, hheight⟩
  · intro ε unit pictures operations hstart
    have hfirst : unit.SharesFrame pictures := fun hne ↦ absurd hstart hne
    exact hfirst.outcomes operations

theorem presented_frames_complete_and_fresh_at_end_of_memory :
    let render := fun _ ↦ (.ok () : Except Unit Unit)
    let last := imageAtEndOfMemory.atTick (idleTicks render) 311
    let stale : Pictures := ⟨.both #[.black], .blank 1 1, .blank 2 3⟩
    (∃ finished, (last.tick render).presented = some finished ∧
      finished.frame.width = 360 ∧ finished.frame.height = 280 ∧
      ∀ pixel ∈ finished.frame.pixels, pixel.alpha = 255) ∧
    ∀ operations : List (Operation Unit),
      (imageAtEndOfMemory.withPictures stale).outcomes operations =
        imageAtEndOfMemory.outcomes operations := by
  intro render last stale
  obtain ⟨hcomplete, hfresh⟩ := presented_frames_complete_and_fresh
  refine ⟨?_, fun operations ↦ hfresh Unit imageAtEndOfMemory stale operations rfl⟩
  have reachable : imageAtEndOfMemory.Reachable := (Reachable.initial default).foldl_access _
  have hquiet : imageAtEndOfMemory.decoder.registers.Quiet :=
    ⟨by decide +kernel, by decide +kernel, by decide +kernel⟩
  have hformat : imageAtEndOfMemory.frameFormat (idleTicks render) = ⟨360, 280, 312, false, false⟩ :=
    (frameFormat_idleTicks _ rfl).trans (by decide +kernel)
  obtain ⟨hruns, hlast, -⟩ := runsTo_of_quiet (n := 311) reachable rfl hquiet
    (by rw [hformat]; decide)
  obtain ⟨finished, hpresented⟩ := presented_idleTicks (n := 311) reachable rfl hquiet
    (by decide +kernel) (by rw [hformat])
  obtain ⟨-, hsolid, -, hsize⟩ := hcomplete _ hlast Unit render finished hpresented
  obtain ⟨hwidth, hheight⟩ := hsize imageAtEndOfMemory hruns.inFrame
  have hstart := (frameFormat_idleTicks render rfl).symm.trans hformat
  rw [hstart] at hwidth hheight
  exact ⟨finished, hpresented, hwidth, hheight, hsolid⟩

end VideoUnit

end DualPlaneVideo
