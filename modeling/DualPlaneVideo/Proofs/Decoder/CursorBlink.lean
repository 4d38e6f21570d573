import DualPlaneVideo.Proofs.Cursor.Blink
import DualPlaneVideo.Proofs.Cursor.Overlay
import DualPlaneVideo.Proofs.Decoder.InterruptStatus
import DualPlaneVideo.Proofs.Decoder.Registers

/-!
# The blinking cursor

The cursor is drawn as its timer stands at the end of a frame, and only then does the timer take
notice of the control register. Under a constant register with an off period the cursor therefore
blinks in cycles from its creation or reset on. An off period of zero turns the timer back to its on
phase for the next frame, so a cursor that is in its off phase when the register changes misses one
more frame.
-/

namespace DualPlaneVideo

namespace Decoder

variable {decoder after : Decoder} {control : Word} {sixtyHz : Bool} {frames : Nat}

/-! ## Finished frames -/

/-- The cursor is on, in the resolution in which it can be drawn. -/
structure ShowsCursor (decoder : Decoder) : Prop where
  enabled : CursorControl.enabled decoder.registers.cursorControl = true
  single : CursorControl.doubleResolution decoder.registers.cursorControl = false

/-- The decoder a field later, with another frame. -/
def withFinished (decoder : Decoder) (frame : Grid) : Decoder :=
  { decoder with
    frame
    blink := decoder.blink.nextField decoder.registers.cursorControl decoder.format.sixtyHz }

theorem finishFrame_of_color?_eq_none (h : decoder.ShowsCursor)
    (hcolor : decoder.blink.color? decoder.registers.cursorControl = none) :
    decoder.finishFrame = .ok (decoder.withFinished decoder.frame) := by
  rw [finishFrame, Cursor.draw_of_color?_eq_none hcolor h.single]
  rfl

theorem finishFrame_of_color?_eq_some {color : Color} (h : decoder.ShowsCursor)
    (hcolor : decoder.blink.color? decoder.registers.cursorControl = some color) :
    decoder.finishFrame = .ok (decoder.withFinished (Cursor.paint decoder.frame
      (Cursor.shape decoder.registers decoder.format.doubleWidth) color)) := by
  rw [finishFrame, Cursor.draw_of_color?_eq_some hcolor h.enabled h.single]
  rfl

theorem finishFrame_eq_ok (h : decoder.ShowsCursor) :
    ∃ frame, decoder.finishFrame = .ok (decoder.withFinished frame) := by
  cases hcolor : decoder.blink.color? decoder.registers.cursorControl with
  | none => exact ⟨_, finishFrame_of_color?_eq_none h hcolor⟩
  | some color => exact ⟨_, finishFrame_of_color?_eq_some h hcolor⟩

theorem eq_withFinished (h : decoder.finishFrame = .ok after) :
    ∃ frame, after = decoder.withFinished frame := by
  obtain ⟨frame, -, rfl⟩ := except_map_eq_ok_iff.mp h
  exact ⟨frame, rfl⟩

/-! ## The timer between frames -/

/-- Only the end of a frame and a reset have an effect on the timer. -/
theorem blink_perform {operation : Operation} (hfinish : operation ≠ .finishFrame)
    (hreset : operation ≠ .reset) : (decoder.perform operation).blink = decoder.blink := by
  cases operation with
  | enterFrame memory =>
    obtain ⟨registers, areas, hentered⟩ := decoder.enterFrame_eq memory
    rw [perform, hentered]
    rfl
  | advanceLine memory sources => exact advanceLine_blink decoder memory sources
  | finishFrame => exact absurd rfl hfinish
  | write write =>
    obtain ⟨registers, hwritten⟩ := decoder.write_eq write
    rw [perform, hwritten]
  | readSystem offset =>
    obtain ⟨registers, hread⟩ := decoder.readSystem_eq offset
    rw [perform, hread]
  | reset => exact absurd rfl hreset
  | reload settings => rfl

/-- A timer at its start stays there until the end of a frame. -/
theorem blink_foldl_perform (h : decoder.blink = .start) {operations : List Operation}
    (hfinish : .finishFrame ∉ operations) :
    (operations.foldl perform decoder).blink = .start := by
  induction operations generalizing decoder with
  | nil => exact h
  | cons operation operations ih =>
    rw [List.mem_cons, not_or] at hfinish
    apply ih _ hfinish.2
    by_cases hreset : operation = .reset
    · rw [hreset]
      rfl
    · exact (blink_perform (Ne.symm hfinish.1) hreset).trans h

/-! ## Without an off period -/

/-- The cursor is on and has no off period. -/
structure ShowsSteadyCursor (decoder : Decoder) : Prop extends ShowsCursor decoder where
  offPeriod_eq_zero : CursorControl.offPeriod decoder.registers.cursorControl = 0

/-- Every pixel of the frame in a set cell of the cursor has the color. -/
def CursorHasColor (decoder : Decoder) (color : Color) : Prop :=
  ∀ x y, x < decoder.frame.width → y < decoder.frame.height →
    Cursor.Covers decoder.registers decoder.format.doubleWidth x y →
    decoder.frame.get? x y = some color

/-- The off phase leaves the cursor's pixels alone, and they have the cursor's own color already. -/
def CursorBlendsIn (decoder : Decoder) : Prop :=
  ∀ x y, x < decoder.frame.width → y < decoder.frame.height →
    Cursor.Covers decoder.registers decoder.format.doubleWidth x y →
    CursorControl.blinksToComplement decoder.registers.cursorControl = false ∧
      decoder.frame.get? x y = some (CursorControl.ownColor decoder.registers.cursorControl)

/-- In its on phase the cursor is drawn in its own color. -/
theorem finishFrame_of_on (h : decoder.ShowsCursor) (hphase : decoder.blink.phase = .on) :
    ∃ frame, decoder.finishFrame = .ok (decoder.withFinished frame) ∧
      (decoder.withFinished frame).CursorHasColor
        (CursorControl.ownColor decoder.registers.cursorControl) := by
  have hdrawn := Cursor.isDrawn_paint decoder.frame decoder.registers decoder.format.doubleWidth
    (CursorControl.ownColor decoder.registers.cursorControl)
  refine ⟨_, finishFrame_of_color?_eq_some h (Blink.color?_of_on hphase), ?_⟩
  intro x y hx hy hcovers
  exact hdrawn.covered x y (hdrawn.width ▸ hx) (hdrawn.height ▸ hy) hcovers

/-- In its off phase the cursor has its own color only where it had it before. -/
theorem finishFrame_of_off (h : decoder.ShowsCursor) (hphase : decoder.blink.phase = .off) :
    ∃ frame, decoder.finishFrame = .ok (decoder.withFinished frame) ∧
      ((decoder.withFinished frame).CursorHasColor
        (CursorControl.ownColor decoder.registers.cursorControl) ↔ decoder.CursorBlendsIn) := by
  have hcolor := Blink.color?_of_off decoder.registers.cursorControl hphase
  cases hblinks : CursorControl.blinksToComplement decoder.registers.cursorControl with
  | false =>
    rw [hblinks] at hcolor
    refine ⟨_, finishFrame_of_color?_eq_none h hcolor, ?_⟩
    constructor
    · exact fun hshown x y hx hy hcovers ↦ ⟨hblinks, hshown x y hx hy hcovers⟩
    · exact fun hblends x y hx hy hcovers ↦ (hblends x y hx hy hcovers).2
  | true =>
    rw [hblinks] at hcolor
    have hdrawn := Cursor.isDrawn_paint decoder.frame decoder.registers
      decoder.format.doubleWidth (CursorControl.complementColor decoder.registers.cursorControl)
    refine ⟨_, finishFrame_of_color?_eq_some h hcolor, ?_⟩
    -- Either way there can be no pixel that the cursor covers.
    constructor
    · intro hshown x y hx hy hcovers
      have hown := hshown x y (hdrawn.width ▸ hx) (hdrawn.height ▸ hy) hcovers
      have hsame := Option.some.inj ((hdrawn.covered x y hx hy hcovers).symm.trans hown)
      exact absurd hsame (CursorControl.complementColor_ne_ownColor _)
    · intro hblends x y hx hy hcovers
      have hinside := hblends x y (hdrawn.width ▸ hx) (hdrawn.height ▸ hy) hcovers
      exact absurd (hblinks.symm.trans hinside.1) Bool.noConfusion

/-- The first frame to end after the start of the timer shows the cursor in its own color. -/
theorem finishFrame_of_start (hstart : decoder.blink = .start) {operations : List Operation}
    (hfinish : .finishFrame ∉ operations)
    (hshows : (operations.foldl perform decoder).ShowsCursor) :
    let later := operations.foldl perform decoder
    ∃ shown, later.finishFrame = .ok shown ∧
      shown.CursorHasColor (CursorControl.ownColor later.registers.cursorControl) := by
  have hphase := congrArg Blink.phase (blink_foldl_perform hstart hfinish)
  obtain ⟨frame, hshown, hcolor⟩ := finishFrame_of_on hshows hphase
  exact ⟨_, hshown, hcolor⟩

/-- A frame that ends without an off period shows the cursor in its own color exactly if the timer
is in its on phase or the cursor blends in. If the next frame ends without an off period too, it
shows the cursor in its own color, whatever happens in between. -/
theorem finishFrame_shows_steady_cursor_iff (h : decoder.ShowsSteadyCursor) :
    ∃ after, decoder.finishFrame = .ok after ∧
      (after.CursorHasColor (CursorControl.ownColor decoder.registers.cursorControl) ↔
        decoder.blink.phase = .on ∨ decoder.CursorBlendsIn) ∧
      ∀ operations : List Operation, .finishFrame ∉ operations →
        let later := operations.foldl perform after
        later.ShowsSteadyCursor → ∃ shown, later.finishFrame = .ok shown ∧
          shown.CursorHasColor (CursorControl.ownColor later.registers.cursorControl) := by
  have hstart (frame : Grid) : (decoder.withFinished frame).blink = .start :=
    Blink.nextField_of_offPeriod_eq_zero h.offPeriod_eq_zero
  have hlater (frame : Grid) (operations : List Operation) (hfinish : .finishFrame ∉ operations)
      (hsteady : (operations.foldl perform (decoder.withFinished frame)).ShowsSteadyCursor) :=
    finishFrame_of_start (hstart frame) hfinish hsteady.toShowsCursor
  cases hphase : decoder.blink.phase with
  | on =>
    obtain ⟨frame, hafter, hcolor⟩ := finishFrame_of_on h.toShowsCursor hphase
    exact ⟨_, hafter, iff_of_true hcolor (.inl rfl), hlater frame⟩
  | off =>
    obtain ⟨frame, hafter, hcolor⟩ := finishFrame_of_off h.toShowsCursor hphase
    refine ⟨_, hafter, hcolor.trans ?_, hlater frame⟩
    exact (or_iff_right BlinkPhase.noConfusion).symm

/-- A red cursor of one cell, without an off period from its first frame on. -/
theorem finishFrame_shows_steady_cursor_iff_red :
    ∃ after, (afterRun default
        [.write (.cursorRow 0 0x8000), .write (.register 0xCE 0x80000C)]).finishFrame = .ok after ∧
      after.CursorHasColor (.solid 255 0 0) := by
  have hshows : (afterRun default
      [.write (.cursorRow 0 0x8000), .write (.register 0xCE 0x80000C)]).ShowsSteadyCursor :=
    ⟨⟨rfl, rfl⟩, rfl⟩
  obtain ⟨after, hafter, hcolor, -⟩ := finishFrame_shows_steady_cursor_iff hshows
  exact ⟨after, hafter, hcolor.mpr (.inl rfl)⟩

/-- A cursor of one cell blinks unseen until it is in its off phase, and is then turned on without
an off period. -/
def lateSteadyCursor : List Operation :=
  [.write (.cursorRow 0 0x8000), .write (.register 0xCE 0x09000C)] ++
    List.replicate 10 .finishFrame ++ [.write (.register 0xCE 0x88000C)]

set_option maxRecDepth 4000 in
/-- The frame ends without the cursor, though its register has no off period. -/
theorem finishFrame_misses_steady_cursor :
    (afterRun default lateSteadyCursor).Reachable ∧
      (afterRun default lateSteadyCursor).ShowsSteadyCursor ∧
      ∃ after, (afterRun default lateSteadyCursor).finishFrame = .ok after ∧
        ¬ after.CursorHasColor
          (CursorControl.ownColor (afterRun default lateSteadyCursor).registers.cursorControl) := by
  have hshows : (afterRun default lateSteadyCursor).ShowsSteadyCursor :=
    ⟨⟨rfl, rfl⟩, by decide +kernel⟩
  have hhidden : (afterRun default lateSteadyCursor).blink.color?
      (afterRun default lateSteadyCursor).registers.cursorControl = none := by decide +kernel
  refine ⟨reachable_afterRun _ _, hshows, _,
    finishFrame_of_color?_eq_none hshows.toShowsCursor hhidden, fun hshown ↦ ?_⟩
  have hframe : (afterRun default lateSteadyCursor).frame = .blank 360 280 := rfl
  have hcovers : Cursor.Covers (afterRun default lateSteadyCursor).registers
      (afterRun default lateSteadyCursor).format.doubleWidth 0 0 :=
    ⟨Nat.zero_le _, Nat.zero_le _, Nat.zero_lt_succ 15, Nat.zero_lt_succ 15, rfl⟩
  have hcell := hshown 0 0 (Nat.zero_lt_succ 359) (Nat.zero_lt_succ 279) hcovers
  rw [withFinished, hframe] at hcell
  simp [Grid.get?, Grid.blank, Color.transparent, CursorControl.ownColor, Color.ofCode,
    Color.solid] at hcell

/-! ## With an off period -/

/-- The decoder has come from its creation or a reset, and has finished so many frames since, each
with this control register and at this field rate. -/
inductive FinishedSinceStart (control : Word) (sixtyHz : Bool) : Nat → Decoder → Prop where
  | initial (settings : Settings) : FinishedSinceStart control sixtyHz 0 (initial settings)
  | reset (decoder : Decoder) : FinishedSinceStart control sixtyHz 0 decoder.reset
  | perform {frames : Nat} {decoder : Decoder}
      (h : FinishedSinceStart control sixtyHz frames decoder) {operation : Operation}
      (hfinish : operation ≠ .finishFrame) (hreset : operation ≠ .reset) :
      FinishedSinceStart control sixtyHz frames (decoder.perform operation)
  | finishFrame {frames : Nat} {decoder after : Decoder}
      (h : FinishedSinceStart control sixtyHz frames decoder)
      (hcontrol : decoder.registers.cursorControl = control)
      (hrate : decoder.format.sixtyHz = sixtyHz) (hfinish : decoder.finishFrame = .ok after) :
      FinishedSinceStart control sixtyHz (frames + 1) after

/-- The timer has counted the frames. -/
theorem FinishedSinceStart.blink (h : FinishedSinceStart control sixtyHz frames decoder)
    (hoff : CursorControl.offPeriod control ≠ 0) :
    decoder.blink = Blink.scheduled control sixtyHz frames := by
  induction h with
  | initial settings => exact (Blink.scheduled_zero control sixtyHz).symm
  | reset decoder => exact (Blink.scheduled_zero control sixtyHz).symm
  | perform _ hfinish hreset ih => exact (blink_perform hfinish hreset).trans ih
  | @finishFrame frames decoder after _ hcontrol hrate hfinish ih =>
    obtain ⟨frame, rfl⟩ := eq_withFinished hfinish
    calc
      (decoder.withFinished frame).blink =
          decoder.blink.nextField decoder.registers.cursorControl decoder.format.sixtyHz := rfl
      _ = (Blink.scheduled control sixtyHz frames).nextField control sixtyHz := by
        rw [ih, hcontrol, hrate]
      _ = Blink.scheduled control sixtyHz (frames + 1) := Blink.nextField_scheduled hoff frames

/-- A cursor that can be drawn may be left alone for any number of frames. -/
theorem FinishedSinceStart.exists_add (h : FinishedSinceStart control sixtyHz frames decoder)
    (hcontrol : decoder.registers.cursorControl = control)
    (hrate : decoder.format.sixtyHz = sixtyHz) (hshows : decoder.ShowsCursor) (more : Nat) :
    ∃ later, FinishedSinceStart control sixtyHz (frames + more) later ∧
      later.registers = decoder.registers ∧ later.format = decoder.format := by
  induction more with
  | zero => exact ⟨decoder, h, rfl, rfl⟩
  | succ more ih =>
    obtain ⟨later, hlater, hregisters, hformat⟩ := ih
    have hlaterShows : later.ShowsCursor :=
      ⟨hregisters ▸ hshows.enabled, hregisters ▸ hshows.single⟩
    obtain ⟨frame, hfinish⟩ := finishFrame_eq_ok hlaterShows
    exact ⟨_, hlater.finishFrame (hregisters ▸ hcontrol) (hformat ▸ hrate) hfinish, hregisters,
      hformat⟩

/-- With an off period the frame after so many others since creation or reset has the cursor in its
own color in the first part of each cycle. In the rest it has the cursor in the complement of that
color, or no cursor at all, as the register says. -/
theorem finishFrame_follows_blink_cycle (h : FinishedSinceStart control sixtyHz frames decoder)
    (hcontrol : decoder.registers.cursorControl = control)
    (hrate : decoder.format.sixtyHz = sixtyHz)
    (henabled : CursorControl.enabled control = true)
    (hsingle : CursorControl.doubleResolution control = false)
    (hoff : 1 ≤ CursorControl.offPeriod control) :
    let unit := if sixtyHz then 12 else 10
    let on := max 1 (CursorControl.onPeriod control)
    let off := CursorControl.offPeriod control
    let isDrawn := Cursor.IsDrawn decoder.registers decoder.format.doubleWidth
    ∃ after, decoder.finishFrame = .ok after ∧
      (frames % (unit * (on + off)) < unit * on →
        isDrawn (.ofCode (CursorControl.colorCode control)) decoder.frame after.frame) ∧
      (¬ frames % (unit * (on + off)) < unit * on →
        CursorControl.blinksToComplement control = true →
        isDrawn (.ofCode (CursorControl.colorCode control ^^^ 7)) decoder.frame after.frame) ∧
      (¬ frames % (unit * (on + off)) < unit * on →
        CursorControl.blinksToComplement control = false → after.frame = decoder.frame) := by
  intro unit on off isDrawn
  subst hcontrol hrate
  have hshows : decoder.ShowsCursor := ⟨henabled, hsingle⟩
  have hphase : decoder.blink.phase =
      if frames % (unit * (on + off)) < unit * on then .on else .off := by
    rw [h.blink (Nat.one_le_iff_ne_zero.mp hoff)]
    exact Blink.phase_scheduled _ _ frames
  by_cases hon : frames % (unit * (on + off)) < unit * on
  · rw [if_pos hon] at hphase
    refine ⟨_, finishFrame_of_color?_eq_some hshows (Blink.color?_of_on hphase), ?_, ?_, ?_⟩
    · exact fun _ ↦ Cursor.isDrawn_paint _ _ _ _
    · exact fun hpast ↦ absurd hon hpast
    · exact fun hpast ↦ absurd hon hpast
  · rw [if_neg hon] at hphase
    have hcolor := Blink.color?_of_off decoder.registers.cursorControl hphase
    cases hblinks : CursorControl.blinksToComplement decoder.registers.cursorControl with
    | false =>
      rw [hblinks] at hcolor
      refine ⟨_, finishFrame_of_color?_eq_none hshows hcolor, ?_, ?_, ?_⟩
      · exact fun hfirst ↦ absurd hfirst hon
      · exact fun _ hcomplement ↦ absurd hcomplement Bool.false_ne_true
      · exact fun _ _ ↦ rfl
    | true =>
      rw [hblinks] at hcolor
      refine ⟨_, finishFrame_of_color?_eq_some hshows hcolor, ?_, ?_, ?_⟩
      · exact fun hfirst ↦ absurd hfirst hon
      · exact fun _ _ ↦ Cursor.isDrawn_paint _ _ _ _
      · exact fun _ hhidden ↦ absurd hhidden Bool.noConfusion

/-- A red cursor without an on period is cyan from the eleventh to the thirtieth frame, and so it is
fifteen frames into its second cycle. -/
theorem finishFrame_follows_blink_cycle_second :
    ∃ decoder after, FinishedSinceStart 0xC2000C false 45 decoder ∧
      decoder.finishFrame = .ok after ∧
      Cursor.IsDrawn decoder.registers decoder.format.doubleWidth (.solid 0 255 255) decoder.frame
        after.frame := by
  have hwritten : FinishedSinceStart 0xC2000C false 0
      ((initial default).perform (.write (.register 0xCE 0xC2000C))) :=
    .perform (.initial default) (by rintro ⟨⟩) (by rintro ⟨⟩)
  obtain ⟨decoder, hstart, hregisters, hformat⟩ := hwritten.exists_add rfl rfl ⟨rfl, rfl⟩ 45
  have hcontrol : decoder.registers.cursorControl = 0xC2000C :=
    congrArg RegisterFile.cursorControl hregisters
  have hrate : decoder.format.sixtyHz = false := congrArg ScreenFormat.sixtyHz hformat
  rw [Nat.zero_add] at hstart
  obtain ⟨after, hafter, -, hcomplement, -⟩ :=
    finishFrame_follows_blink_cycle hstart hcontrol hrate rfl rfl (by decide)
  exact ⟨decoder, after, hstart, hafter, hcomplement (by decide) rfl⟩

end Decoder

end DualPlaneVideo
