import DualPlaneVideo.Proofs.Decoder.CursorBlink

/-!
# The pixels of the cursor

At the end of a frame the cursor overwrites the pixels in its set cells and leaves all others as they
are. Cells that hang over the right or the bottom edge are cut off there and come back nowhere else.
The one thing that keeps a frame from ending is a cursor of double resolution, and then nothing has
changed.
-/

namespace DualPlaneVideo

namespace Cursor

variable {frame drawn : Grid} {registers : RegisterFile} {blink : Blink} {doubleWidth : Bool}
  {x y : Nat}

theorem draw_of_double (henabled : CursorControl.enabled registers.cursorControl = true)
    (hdouble : CursorControl.doubleResolution registers.cursorControl = true) :
    draw frame registers blink doubleWidth = .error .doubleResolutionCursor := by
  simp [draw, henabled, hdouble]

/-- The cursor is on, shows in this color in its phase, and has the pixel in a set cell. -/
structure Paints (registers : RegisterFile) (blink : Blink) (doubleWidth : Bool) (x y : Nat)
    (color : Color) : Prop where
  enabled : CursorControl.enabled registers.cursorControl = true
  visible : blink.color? registers.cursorControl = some color
  covers : Covers registers doubleWidth x y

theorem get?_draw_of_paints {color : Color}
    (h : draw frame registers blink doubleWidth = .ok drawn)
    (hpaints : Paints registers blink doubleWidth x y color) (hx : x < frame.width)
    (hy : y < frame.height) : drawn.get? x y = some color := by
  cases hdouble : CursorControl.doubleResolution registers.cursorControl with
  | true =>
    rw [draw_of_double hpaints.enabled hdouble] at h
    cases h
  | false =>
    rw [draw_of_color?_eq_some hpaints.visible hpaints.enabled hdouble] at h
    cases h
    exact (isDrawn_paint _ _ _ _).covered x y hx hy hpaints.covers

theorem get?_draw_of_not_paints (h : draw frame registers blink doubleWidth = .ok drawn)
    (hpaints : ∀ color, ¬ Paints registers blink doubleWidth x y color) :
    drawn.get? x y = frame.get? x y := by
  cases henabled : CursorControl.enabled registers.cursorControl with
  | false =>
    rw [draw_of_disabled henabled] at h
    cases h
    rfl
  | true =>
    cases hdouble : CursorControl.doubleResolution registers.cursorControl with
    | true =>
      rw [draw_of_double henabled hdouble] at h
      cases h
    | false =>
      cases hcolor : blink.color? registers.cursorControl with
      | none =>
        rw [draw_of_color?_eq_none hcolor hdouble] at h
        cases h
        rfl
      | some color =>
        rw [draw_of_color?_eq_some hcolor henabled hdouble] at h
        cases h
        apply (isDrawn_paint _ _ _ _).uncovered
        intro hcovers
        exact hpaints color ⟨henabled, hcolor, hcovers⟩

end Cursor

namespace Decoder

variable {decoder : Decoder}

/-- The cursor is on, in the resolution in which it cannot be drawn. -/
structure HasDoubleCursor (decoder : Decoder) : Prop where
  enabled : CursorControl.enabled decoder.registers.cursorControl = true
  double : CursorControl.doubleResolution decoder.registers.cursorControl = true

theorem finishFrame_of_double (h : decoder.HasDoubleCursor) :
    decoder.finishFrame = .error .doubleResolutionCursor := by
  rw [finishFrame, Cursor.draw_of_double h.enabled h.double]
  rfl

theorem exists_finishFrame_of_not_double (h : ¬ decoder.HasDoubleCursor) :
    ∃ frame, decoder.finishFrame = .ok (decoder.withFinished frame) := by
  cases henabled : CursorControl.enabled decoder.registers.cursorControl with
  | false =>
    refine ⟨decoder.frame, ?_⟩
    rw [finishFrame, Cursor.draw_of_disabled henabled]
    rfl
  | true =>
    cases hdouble : CursorControl.doubleResolution decoder.registers.cursorControl with
    | true => exact absurd ⟨henabled, hdouble⟩ h
    | false => exact finishFrame_eq_ok ⟨henabled, hdouble⟩

theorem finishFrame_eq_error_iff {failure : Failure} :
    decoder.finishFrame = .error failure ↔
      decoder.HasDoubleCursor ∧ failure = .doubleResolutionCursor := by
  constructor
  · intro h
    by_cases hdouble : decoder.HasDoubleCursor
    · rw [finishFrame_of_double hdouble] at h
      exact ⟨hdouble, (Except.error.inj h).symm⟩
    · obtain ⟨frame, hfinish⟩ := exists_finishFrame_of_not_double hdouble
      rw [hfinish] at h
      cases h
  · rintro ⟨hdouble, rfl⟩
    exact finishFrame_of_double hdouble

/-- The end of the frame gives the pixel the color of the cursor. -/
def PaintsPixel (decoder : Decoder) (x y : Nat) (color : Color) : Prop :=
  Cursor.Paints decoder.registers decoder.blink decoder.format.doubleWidth x y color

/-- A frame fails to end exactly if the cursor is on in double resolution, and then it is as before.
In every other case the pixels that the cursor paints take its color, every other pixel of the frame
keeps its own, and beside the frame only the blink timer goes on. -/
theorem finishFrame_paints_exactly (decoder : Decoder) :
    ((∃ failure, decoder.finishFrame = .error failure) ↔ decoder.HasDoubleCursor) ∧
    (decoder.HasDoubleCursor → decoder.finishFrame = .error .doubleResolutionCursor ∧
      decoder.perform .finishFrame = decoder) ∧
    (¬ decoder.HasDoubleCursor → ∃ after, decoder.finishFrame = .ok after ∧
      after = decoder.withFinished after.frame ∧
      after.frame.width = decoder.frame.width ∧ after.frame.height = decoder.frame.height ∧
      ∀ x y, x < decoder.frame.width → y < decoder.frame.height →
        (∀ color, decoder.PaintsPixel x y color → after.frame.get? x y = some color) ∧
        ((∀ color, ¬ decoder.PaintsPixel x y color) →
          after.frame.get? x y = decoder.frame.get? x y)) := by
  refine ⟨?_, ?_, ?_⟩
  · simp only [finishFrame_eq_error_iff, exists_and_left, exists_eq, and_true]
  · intro hdouble
    have hfailed := finishFrame_of_double hdouble
    exact ⟨hfailed, by rw [perform, hfailed]⟩
  · intro hdouble
    obtain ⟨frame, hfinish⟩ := exists_finishFrame_of_not_double hdouble
    obtain ⟨drawn, hdraw, hdrawn⟩ := except_map_eq_ok_iff.mp hfinish
    have hframe : drawn = frame := congrArg Decoder.frame hdrawn
    rw [hframe] at hdraw
    obtain ⟨hwidth, hheight⟩ := Cursor.size_of_draw hdraw
    refine ⟨decoder.withFinished frame, hfinish, rfl, hwidth, hheight, ?_⟩
    intro x y hx hy
    constructor
    · intro color hpaints
      exact Cursor.get?_draw_of_paints hdraw hpaints hx hy
    · intro hpaints
      exact Cursor.get?_draw_of_not_paints hdraw hpaints

/-- A red cursor whose top row is set begins five pixels before the right edge. Its sixth cell is not
drawn, neither there nor at the beginning of the next row. -/
theorem finishFrame_paints_exactly_at_right_edge :
    let decoder := afterRun default
      [.write (.cursorRow 0 0xFFFF), .write (.register 0xCD 710), .write (.register 0xCE 0x80000C)]
    ∃ after, decoder.finishFrame = .ok after ∧ after.frame.width = 360 ∧
      after.frame.get? 359 0 = some (.solid 255 0 0) ∧
      after.frame.get? 360 0 = none ∧
      after.frame.get? 0 1 = some .transparent := by
  intro decoder
  obtain ⟨-, -, hdrawn⟩ := finishFrame_paints_exactly decoder
  have hsingle : ¬ decoder.HasDoubleCursor := by
    rintro ⟨-, hdouble⟩
    exact absurd hdouble (by decide +kernel)
  obtain ⟨after, hfinish, -, hwidth, -, hpixels⟩ := hdrawn hsingle
  have hframe : decoder.frame = .blank 360 280 := rfl
  have hleft : Cursor.left decoder.registers decoder.format.doubleWidth = 355 := by
    decide +kernel
  rw [hframe] at hwidth hpixels
  have hcovers : Cursor.Covers decoder.registers decoder.format.doubleWidth 359 0 :=
    { left_le := by rw [hleft]; decide
      top_le := by decide +kernel
      isSet := ⟨by decide +kernel, by decide +kernel, by decide +kernel⟩ }
  have hlast : decoder.PaintsPixel 359 0 (.solid 255 0 0) :=
    ⟨by decide +kernel, by decide +kernel, hcovers⟩
  have hnext : ∀ color, ¬ decoder.PaintsPixel 0 1 color := by
    rintro color ⟨-, -, hcovers⟩
    have hle := hcovers.left_le
    rw [hleft] at hle
    cases hle
  refine ⟨after, hfinish, hwidth, ?_, ?_, ?_⟩
  · exact (hpixels 359 0 (by decide) (by decide)).1 _ hlast
  · apply Grid.get?_eq_none
    rw [hwidth]
    rintro ⟨hx, -⟩
    exact absurd hx (Nat.lt_irrefl 360)
  · rw [(hpixels 0 1 (by decide) (by decide)).2 hnext]
    simp [Grid.get?, Grid.blank]

end Decoder

end DualPlaneVideo
