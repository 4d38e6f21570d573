import DualPlaneVideo.Grid
import Mathlib.Tactic.Common

/-!
# Rows of a grid

A row shows the cells that it consists of, and every row below the height is there. What replacing a
row does to a grid, cell by cell: the row takes the new pixels, every other cell keeps its own, and
the size stays.
-/

namespace DualPlaneVideo

/-- The pixel is fully opaque. -/
def Color.IsSolid (color : Color) : Prop := color.alpha = 255

namespace Grid

/-! ## Sizes -/

@[simp]
theorem width_blank (width height : Nat) : (blank width height).width = width := rfl

@[simp]
theorem height_blank (width height : Nat) : (blank width height).height = height := rfl

@[simp]
theorem width_resize (grid : Grid) (width height : Nat) :
    (grid.resize width height).width = width := by
  unfold resize
  split
  · rename_i h
    exact h.1
  · rfl

@[simp]
theorem height_resize (grid : Grid) (width height : Nat) :
    (grid.resize width height).height = height := by
  unfold resize
  split
  · rename_i h
    exact h.2
  · rfl

@[simp]
theorem width_set (grid : Grid) (x y : Nat) (color : Color) :
    (grid.set x y color).width = grid.width := by
  unfold set
  split <;> rfl

@[simp]
theorem height_set (grid : Grid) (x y : Nat) (color : Color) :
    (grid.set x y color).height = grid.height := by
  unfold set
  split <;> rfl

@[simp]
theorem width_fill (grid : Grid) (color : Color) : (grid.fill color).width = grid.width := rfl

@[simp]
theorem height_fill (grid : Grid) (color : Color) : (grid.fill color).height = grid.height := rfl

/-! ## Overwriting -/

/-- The first `count` steps of overwriting. -/
theorem getElem?_overwrite_fold (pixels : Array Color) (start : Nat) (row : Array Color)
    (index count : Nat) (hcount : count ≤ row.size) :
    (Nat.fold count (fun x hx (pixels : Array Color) ↦
        pixels.setIfInBounds (start + x) (getElem row x (Nat.lt_of_lt_of_le hx hcount))) pixels)[index]? =
      if start ≤ index ∧ index < start + count ∧ index < pixels.size then row[index - start]?
      else pixels[index]? := by
  induction count with
  | zero =>
    rw [Nat.fold_zero, if_neg (by omega)]
  | succ count ih =>
    have hle : count ≤ row.size := Nat.le_of_succ_le hcount
    rw [Nat.fold_succ, Array.getElem?_setIfInBounds, ih hle,
      size_overwrite_fold pixels start row count hle]
    by_cases hindex : start + count = index
    · subst hindex
      rw [if_pos rfl]
      by_cases hin : start + count < pixels.size
      · rw [if_pos hin, if_pos ⟨by omega, by omega, hin⟩, Nat.add_sub_cancel_left,
          Array.getElem?_eq_getElem hcount]
      · rw [if_neg hin, if_neg (by omega), Array.getElem?_eq_none (by omega)]
    · rw [if_neg hindex]
      by_cases hin : start ≤ index ∧ index < start + count ∧ index < pixels.size
      · rw [if_pos hin, if_pos ⟨hin.1, by omega, hin.2.2⟩]
      · rw [if_neg hin, if_neg (by omega)]

theorem getElem?_overwrite (pixels : Array Color) (start : Nat) (row : Array Color) (index : Nat) :
    (overwrite pixels start row)[index]? =
      if start ≤ index ∧ index < start + row.size ∧ index < pixels.size then row[index - start]?
      else pixels[index]? :=
  getElem?_overwrite_fold pixels start row index row.size (Nat.le_refl _)

/-- A row as long as the pixels replaces them all. -/
theorem overwrite_of_size_eq {pixels row : Array Color} (h : row.size = pixels.size) :
    overwrite pixels 0 row = row := by
  apply Array.ext_getElem?
  intro index
  rw [getElem?_overwrite, Nat.sub_zero]
  by_cases hindex : index < pixels.size
  · rw [if_pos ⟨Nat.zero_le _, by omega, hindex⟩]
  · rw [if_neg (by omega), Array.getElem?_eq_none (by omega), Array.getElem?_eq_none (by omega)]

theorem get?_eq_none {grid : Grid} {x y : Nat} (h : ¬ (x < grid.width ∧ y < grid.height)) :
    grid.get? x y = none := by
  rw [get?, if_neg h]

/-! ## Rows -/

theorem hasRow_of_lt {grid : Grid} {y : Nat} (h : y < grid.height) : grid.HasRow y := by
  rw [HasRow, grid.size_pixels]
  calc
    y * grid.width + grid.width = (y + 1) * grid.width := (Nat.succ_mul _ _).symm
    _ ≤ grid.height * grid.width := Nat.mul_le_mul_right _ h
    _ = grid.width * grid.height := Nat.mul_comm _ _

variable {grid after : Grid} {y : Nat} {row : Array Color}

/-- All rows of a grid without columns are empty, and so there is one at every place. -/
theorem hasRow_iff : grid.HasRow y ↔ y < grid.height ∨ grid.width = 0 := by
  constructor
  · intro h
    by_contra houtside
    obtain ⟨hheight, hwidth⟩ := not_or.mp houtside
    have hle := Nat.mul_le_mul_right grid.width (Nat.le_of_not_lt hheight)
    rw [HasRow, grid.size_pixels, Nat.mul_comm grid.width] at h
    omega
  · rintro (hheight | hwidth)
    · exact hasRow_of_lt hheight
    · rw [HasRow, hwidth, Nat.mul_zero]
      exact Nat.zero_le _

theorem cell_lt {x : Nat} (hx : x < grid.width) (hy : y < grid.height) :
    y * grid.width + x < grid.pixels.size := by
  have hrow := hasRow_of_lt hy
  rw [HasRow] at hrow
  omega

theorem getElem?_pixels {x : Nat} (hx : x < grid.width) (hy : y < grid.height) :
    grid.pixels[y * grid.width + x]? = grid.get? x y := by
  rw [get?, if_pos ⟨hx, hy⟩]

theorem row?_eq_some (hrow : grid.HasRow y) :
    ∃ row, grid.row? y = some row ∧ row.size = grid.width := by
  refine ⟨_, if_pos hrow, ?_⟩
  rw [HasRow] at hrow
  rw [Array.size_extract, Nat.min_eq_left hrow]
  omega

theorem getElem?_row? (h : grid.row? y = some row) {x : Nat} (hx : x < grid.width)
    (hy : y < grid.height) : row[x]? = grid.get? x y := by
  have hrow := hasRow_of_lt hy
  rw [row?, if_pos hrow, Option.some_inj] at h
  rw [← h, Array.getElem?_extract, if_pos, getElem?_pixels hx hy]
  rw [HasRow] at hrow
  omega

theorem setRow?_eq_some (hy : y < grid.height) (hrow : row.size = grid.width) :
    ∃ after, grid.setRow? y row = some after :=
  ⟨_, by rw [setRow?, if_pos ⟨hasRow_of_lt hy, hrow⟩]⟩

theorem width_of_setRow? (h : grid.setRow? y row = some after) : after.width = grid.width := by
  unfold setRow? at h
  split at h
  · cases h
    rfl
  · cases h

theorem height_of_setRow? (h : grid.setRow? y row = some after) :
    after.height = grid.height := by
  unfold setRow? at h
  split at h
  · cases h
    rfl
  · cases h

/-- Cell `x` of row `y` does not lie in another row. -/
theorem cell_ne_of_row_ne {width x y target : Nat} (hx : x < width) (hy : y ≠ target) :
    ¬ (target * width ≤ y * width + x ∧ y * width + x < target * width + width) := by
  rintro ⟨hlow, hhigh⟩
  rcases Nat.lt_or_gt_of_ne hy with hlt | hgt
  · have := Nat.mul_le_mul_right width (Nat.succ_le_of_lt hlt)
    rw [Nat.succ_mul] at this
    omega
  · have := Nat.mul_le_mul_right width (Nat.succ_le_of_lt hgt)
    rw [Nat.succ_mul] at this
    omega

theorem get?_setRow? (h : grid.setRow? y row = some after) {x target : Nat}
    (htarget : target < grid.height) :
    after.get? x target = if target = y then row[x]? else grid.get? x target := by
  have hwidth := width_of_setRow? h
  have hheight := height_of_setRow? h
  unfold setRow? at h
  split at h
  · rename_i hfit
    cases h
    unfold get?
    by_cases hx : x < grid.width
    · have hcell := cell_lt hx htarget
      simp only [hx, htarget, and_self, if_true]
      rw [getElem?_overwrite, hfit.2]
      by_cases hsame : target = y
      · subst hsame
        rw [if_pos rfl, if_pos ⟨by omega, by omega, hcell⟩, Nat.add_sub_cancel_left]
      · rw [if_neg hsame, if_neg fun hin ↦ cell_ne_of_row_ne hx hsame ⟨hin.1, hin.2.1⟩]
    · have hnone : row[x]? = none := Array.getElem?_eq_none (by omega)
      simp [hx, hnone]
  · cases h

/-- A row that is not replaced stays, inside the grid and outside. -/
theorem get?_setRow?_of_ne (h : grid.setRow? y row = some after) {x target : Nat}
    (htarget : target ≠ y) : after.get? x target = grid.get? x target := by
  by_cases hin : target < grid.height
  · rw [get?_setRow? h hin, if_neg htarget]
  · have hafter : ¬ target < after.height := by rwa [height_of_setRow? h]
    rw [get?_eq_none fun hcell ↦ hafter hcell.2, get?_eq_none fun hcell ↦ hin hcell.2]

/-! ## Cells -/

/-- Cells in different places have different indices. -/
theorem cell_inj {width x y otherX otherY : Nat} (hx : x < width) (hother : otherX < width) :
    y * width + x = otherY * width + otherX ↔ x = otherX ∧ y = otherY := by
  constructor
  · intro h
    have hy : y = otherY := by
      by_contra hne
      exact cell_ne_of_row_ne hx hne ⟨by omega, by omega⟩
    subst hy
    exact ⟨by omega, rfl⟩
  · rintro ⟨rfl, rfl⟩
    rfl

theorem get?_set (grid : Grid) (x y : Nat) (color : Color) {targetX targetY : Nat}
    (hx : targetX < grid.width) (hy : targetY < grid.height) :
    (grid.set x y color).get? targetX targetY =
      if targetX = x ∧ targetY = y then some color else grid.get? targetX targetY := by
  have hcell := cell_lt hx hy
  unfold set
  by_cases hin : x < grid.width ∧ y < grid.height
  · simp only [hin, and_self, if_true, get?, hx, hy, Array.getElem?_setIfInBounds]
    by_cases htarget : targetX = x ∧ targetY = y
    · obtain ⟨rfl, rfl⟩ := htarget
      simp [hcell]
    · rw [if_neg htarget, if_neg]
      rw [cell_inj hin.1 hx]
      exact fun h ↦ htarget ⟨h.1.symm, h.2.symm⟩
  · rw [if_neg hin, if_neg]
    rintro ⟨rfl, rfl⟩
    exact hin ⟨hx, hy⟩

theorem get?_set_of_ne (grid : Grid) {x y targetX targetY : Nat} (color : Color)
    (h : targetY ≠ y) : (grid.set x y color).get? targetX targetY = grid.get? targetX targetY := by
  by_cases hin : targetX < grid.width ∧ targetY < grid.height
  · rw [get?_set grid x y color hin.1 hin.2, if_neg]
    exact fun hsame ↦ h hsame.2
  · rw [get?_eq_none hin, get?_eq_none]
    rwa [width_set, height_set]

/-- Every pixel is in some cell. -/
theorem exists_cell {grid : Grid} {index : Nat} (hindex : index < grid.pixels.size) :
    ∃ x y, (x < grid.width ∧ y < grid.height) ∧ y * grid.width + x = index := by
  have hsize : index < grid.height * grid.width := by
    rw [Nat.mul_comm, ← grid.size_pixels]
    exact hindex
  have hwidth : 0 < grid.width := Nat.pos_of_mul_pos_left (Nat.zero_lt_of_lt hsize)
  refine ⟨index % grid.width, index / grid.width, ⟨Nat.mod_lt _ hwidth, ?_⟩, ?_⟩
  · exact Nat.div_lt_of_lt_mul (by rwa [Nat.mul_comm])
  · rw [Nat.mul_comm, Nat.div_add_mod]

/-- Grids of one size with the same cells are the same. -/
theorem ext_get? {grid other : Grid} (hwidth : grid.width = other.width)
    (hheight : grid.height = other.height)
    (hcells : ∀ x y, y < grid.height → grid.get? x y = other.get? x y) : grid = other := by
  have hsize : grid.pixels.size = other.pixels.size := by
    rw [grid.size_pixels, other.size_pixels, hwidth, hheight]
  have hpixels : grid.pixels = other.pixels := by
    apply Array.ext_getElem?
    intro index
    by_cases hindex : index < grid.pixels.size
    · obtain ⟨x, y, hin, rfl⟩ := exists_cell hindex
      have hcell := hcells x y hin.2
      rw [get?, if_pos hin, get?, ← hwidth, ← hheight, if_pos hin] at hcell
      exact hcell
    · rw [Array.getElem?_eq_none (by omega), Array.getElem?_eq_none (by omega)]
  obtain ⟨width, height, pixels, hfirst⟩ := grid
  obtain ⟨otherWidth, otherHeight, otherPixels, hsecond⟩ := other
  cases hwidth
  cases hheight
  cases hpixels
  rfl

/-! ## Opaque pixels -/

/-- Every pixel is fully opaque. -/
def IsSolid (grid : Grid) : Prop := ∀ x y color, grid.get? x y = some color → color.IsSolid

theorem IsSolid.of_mem {grid : Grid} (h : grid.IsSolid) {color : Color}
    (hcolor : color ∈ grid.pixels) : color.IsSolid := by
  obtain ⟨index, hindex, rfl⟩ := Array.mem_iff_getElem.mp hcolor
  obtain ⟨x, y, hin, rfl⟩ := exists_cell hindex
  apply h x y
  rw [get?, if_pos hin, Array.getElem?_eq_getElem hindex]

theorem IsSolid.set {grid : Grid} (h : grid.IsSolid) (x y : Nat) {color : Color}
    (hcolor : color.IsSolid) : (grid.set x y color).IsSolid := by
  intro targetX targetY found hfound
  by_cases hin : targetX < grid.width ∧ targetY < grid.height
  · rw [get?_set grid x y color hin.1 hin.2] at hfound
    split at hfound
    · cases hfound
      exact hcolor
    · exact h targetX targetY found hfound
  · rw [get?_eq_none (by rwa [width_set, height_set])] at hfound
    cases hfound

end Grid

end DualPlaneVideo
