import DualPlaneVideo.Cursor.Overlay
import DualPlaneVideo.Proofs.Grid

/-!
# Drawing the cursor

The cursor is drawn into the frame without changing its size. Double resolution is the one thing
that keeps it from being drawn. While it shows, the pixels in its set cells take its color, and
every other pixel of the frame stays as it was.
-/

namespace DualPlaneVideo

namespace Cursor

theorem size_paint (frame : Grid) (cells : List (Nat × Nat)) (color : Color) :
    (paint frame cells color).width = frame.width ∧
      (paint frame cells color).height = frame.height := by
  induction cells generalizing frame with
  | nil => exact ⟨rfl, rfl⟩
  | cons cell cells ih =>
    obtain ⟨hwidth, hheight⟩ := ih (frame.set cell.1 cell.2 color)
    constructor
    · calc
        (paint frame (cell :: cells) color).width = (frame.set cell.1 cell.2 color).width := hwidth
        _ = frame.width := Grid.width_set _ _ _ _
    · calc
        (paint frame (cell :: cells) color).height =
            (frame.set cell.1 cell.2 color).height := hheight
        _ = frame.height := Grid.height_set _ _ _ _

variable {frame drawn : Grid} {registers : RegisterFile} {blink : Blink} {doubleWidth : Bool}

theorem size_of_draw (h : draw frame registers blink doubleWidth = .ok drawn) :
    drawn.width = frame.width ∧ drawn.height = frame.height := by
  unfold draw at h
  split at h
  · cases h
    exact ⟨rfl, rfl⟩
  · split at h
    · cases h
    · split at h
      · cases h
        exact ⟨rfl, rfl⟩
      · cases h
        exact size_paint _ _ _

theorem isSolid_paint (hframe : frame.IsSolid) (cells : List (Nat × Nat)) {color : Color}
    (hcolor : color.IsSolid) : (paint frame cells color).IsSolid := by
  induction cells generalizing frame with
  | nil => exact hframe
  | cons cell cells ih => exact ih (hframe.set cell.1 cell.2 hcolor)

/-- The cursor is opaque in both of its phases. -/
theorem isSolid_of_color? {control : Word} {color : Color}
    (h : blink.color? control = some color) : color.IsSolid := by
  unfold Blink.color? at h
  split at h
  · cases h
    rfl
  · split at h
    · cases h
      rfl
    · cases h

theorem isSolid_of_draw (h : draw frame registers blink doubleWidth = .ok drawn)
    (hframe : frame.IsSolid) : drawn.IsSolid := by
  unfold draw at h
  split at h
  · cases h
    exact hframe
  · split at h
    · cases h
    · split at h
      · cases h
        exact hframe
      · rename_i hcolor
        cases h
        exact isSolid_paint hframe _ (isSolid_of_color? hcolor)

theorem draw_of_disabled (h : CursorControl.enabled registers.cursorControl = false) :
    draw frame registers blink doubleWidth = .ok frame := by
  rw [draw, h]
  rfl

theorem draw_of_color?_eq_none (h : blink.color? registers.cursorControl = none)
    (hsingle : CursorControl.doubleResolution registers.cursorControl = false) :
    draw frame registers blink doubleWidth = .ok frame := by
  simp [draw, hsingle, h]

theorem draw_of_color?_eq_some {color : Color}
    (h : blink.color? registers.cursorControl = some color)
    (henabled : CursorControl.enabled registers.cursorControl = true)
    (hsingle : CursorControl.doubleResolution registers.cursorControl = false) :
    draw frame registers blink doubleWidth =
      .ok (paint frame (shape registers doubleWidth) color) := by
  simp [draw, henabled, hsingle, h]

theorem draw_eq_error {failure : Failure}
    (h : draw frame registers blink doubleWidth = .error failure) :
    failure = .doubleResolutionCursor := by
  unfold draw at h
  split at h
  · cases h
  · split at h
    · cases h
      rfl
    · split at h <;> cases h

/-! ## Cells -/

/-- The pixel column in which the cells begin. -/
def left (registers : RegisterFile) (doubleWidth : Bool) : Nat :=
  if doubleWidth then CursorPosition.x registers.cursorPosition
  else CursorPosition.x registers.cursorPosition / 2

def cellWidth (doubleWidth : Bool) : Nat := if doubleWidth then 2 else 1

/-- The pattern has the cell, and it is set. -/
def IsSet (pattern : Vector UInt16 16) (column row : Nat) : Prop :=
  column < 16 ∧ ∃ _ : row < 16, pattern[row].toNat.testBit (15 - column) = true

/-- The pixel lies in a set cell. -/
structure Covers (registers : RegisterFile) (doubleWidth : Bool) (x y : Nat) : Prop where
  left_le : left registers doubleWidth ≤ x
  top_le : CursorPosition.y registers.cursorPosition ≤ y
  isSet : IsSet registers.cursorPattern ((x - left registers doubleWidth) / cellWidth doubleWidth)
    (y - CursorPosition.y registers.cursorPosition)

theorem cellWidth_pos (doubleWidth : Bool) : 0 < cellWidth doubleWidth := by
  cases doubleWidth <;> decide

theorem shape_eq_coveredPixels (registers : RegisterFile) (doubleWidth : Bool) :
    shape registers doubleWidth = coveredPixels registers.cursorPattern
      (left registers doubleWidth) (CursorPosition.y registers.cursorPosition)
      (cellWidth doubleWidth) := by
  cases doubleWidth <;> rfl

theorem mem_coveredPixels_iff {pattern : Vector UInt16 16} {start top width x y : Nat}
    (hwidth : 0 < width) :
    (x, y) ∈ coveredPixels pattern start top width ↔
      start ≤ x ∧ top ≤ y ∧ IsSet pattern ((x - start) / width) (y - top) := by
  simp only [coveredPixels, List.mem_flatMap, List.mem_finRange, true_and, List.mem_range]
  constructor
  · rintro ⟨row, column, hcolumn, hcell⟩
    split at hcell
    · rename_i hset
      obtain ⟨dx, hdx, hpixel⟩ := List.mem_map.mp hcell
      obtain ⟨rfl, rfl⟩ := Prod.mk.inj hpixel
      have hstart : start + column * width + dx - start = width * column + dx := by
        rw [Nat.add_assoc, Nat.add_sub_cancel_left, Nat.mul_comm]
      have hinside : (start + column * width + dx - start) / width = column := by
        rw [hstart, Nat.mul_add_div hwidth, Nat.div_eq_of_lt (List.mem_range.mp hdx), Nat.add_zero]
      refine ⟨by omega, Nat.le_add_right _ _, ?_⟩
      rw [hinside, Nat.add_sub_cancel_left]
      exact ⟨hcolumn, row.isLt, hset⟩
    · exact absurd hcell List.not_mem_nil
  · rintro ⟨hstart, htop, hcolumn, hrow, hset⟩
    have hcell : pattern[(⟨y - top, hrow⟩ : Fin 16)].toNat.testBit
        (15 - (x - start) / width) = true := hset
    refine ⟨⟨y - top, hrow⟩, _, hcolumn, ?_⟩
    rw [if_pos hcell]
    apply List.mem_map.mpr
    refine ⟨(x - start) % width, List.mem_range.mpr (Nat.mod_lt _ hwidth), Prod.ext ?_ ?_⟩
    · have hdiv := Nat.div_add_mod' (x - start) width
      dsimp only
      omega
    · exact Nat.add_sub_cancel' htop

theorem mem_shape_iff {x y : Nat} :
    (x, y) ∈ shape registers doubleWidth ↔ Covers registers doubleWidth x y := by
  rw [shape_eq_coveredPixels, mem_coveredPixels_iff (cellWidth_pos doubleWidth)]
  exact ⟨fun ⟨hleft, htop, hset⟩ ↦ ⟨hleft, htop, hset⟩, fun h ↦ ⟨h.left_le, h.top_le, h.isSet⟩⟩

/-! ## The frame under the cursor -/

/-- The cursor is in the frame in one color, and nothing else has changed. -/
structure IsDrawn (registers : RegisterFile) (doubleWidth : Bool) (color : Color)
    (frame drawn : Grid) : Prop where
  width : drawn.width = frame.width
  height : drawn.height = frame.height
  covered : ∀ x y, x < frame.width → y < frame.height → Covers registers doubleWidth x y →
    drawn.get? x y = some color
  uncovered : ∀ x y, ¬ Covers registers doubleWidth x y → drawn.get? x y = frame.get? x y

theorem get?_paint (frame : Grid) (cells : List (Nat × Nat)) (color : Color) {x y : Nat}
    (hx : x < frame.width) (hy : y < frame.height) :
    (paint frame cells color).get? x y =
      if (x, y) ∈ cells then some color else frame.get? x y := by
  induction cells generalizing frame with
  | nil => rfl
  | cons cell cells ih =>
    have hlater := ih (frame.set cell.1 cell.2 color) (by rwa [Grid.width_set])
      (by rwa [Grid.height_set])
    refine hlater.trans ?_
    rw [Grid.get?_set frame cell.1 cell.2 color hx hy]
    by_cases hcells : (x, y) ∈ cells
    · rw [if_pos hcells, if_pos (List.mem_cons_of_mem _ hcells)]
    · simp only [hcells, if_false, List.mem_cons, or_false, Prod.ext_iff]

theorem isDrawn_paint (frame : Grid) (registers : RegisterFile) (doubleWidth : Bool)
    (color : Color) :
    IsDrawn registers doubleWidth color frame
      (paint frame (shape registers doubleWidth) color) where
  width := (size_paint _ _ _).1
  height := (size_paint _ _ _).2
  covered _ _ hx hy h := by
    rw [get?_paint _ _ _ hx hy, if_pos (mem_shape_iff.mpr h)]
  uncovered x y h := by
    by_cases hin : x < frame.width ∧ y < frame.height
    · rw [get?_paint _ _ _ hin.1 hin.2, if_neg fun hmem ↦ h (mem_shape_iff.mp hmem)]
    · rw [Grid.get?_eq_none hin, Grid.get?_eq_none]
      rwa [(size_paint _ _ _).1, (size_paint _ _ _).2]

end Cursor

end DualPlaneVideo
