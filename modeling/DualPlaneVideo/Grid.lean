import DualPlaneVideo.Color

/-!
# Pixel grids

A grid is a rectangle of pixels in row-major order; the pixel array always has exactly
`width * height` entries. Cells outside the rectangle read as `none` and ignore writes, while a
whole row must lie inside.
-/

namespace DualPlaneVideo

structure Grid where
  width : Nat
  height : Nat
  pixels : Array Color
  size_pixels : pixels.size = width * height

namespace Grid

/-- A grid of transparent pixels. -/
def blank (width height : Nat) : Grid where
  width := width
  height := height
  pixels := Array.replicate (width * height) Color.transparent
  size_pixels := Array.size_replicate

instance : Inhabited Grid := ⟨blank 0 0⟩

/-- A grid of another size starts blank; a grid that already has the size is kept. -/
def resize (grid : Grid) (width height : Nat) : Grid :=
  if grid.width = width ∧ grid.height = height then grid else blank width height

def get? (grid : Grid) (x y : Nat) : Option Color :=
  if x < grid.width ∧ y < grid.height then grid.pixels[y * grid.width + x]? else none

def set (grid : Grid) (x y : Nat) (color : Color) : Grid :=
  if x < grid.width ∧ y < grid.height then
    { grid with
      pixels := grid.pixels.setIfInBounds (y * grid.width + x) color
      size_pixels := by rw [Array.size_setIfInBounds, grid.size_pixels] }
  else grid

def fill (grid : Grid) (color : Color) : Grid where
  width := grid.width
  height := grid.height
  pixels := Array.replicate (grid.width * grid.height) color
  size_pixels := Array.size_replicate

/-- Row `y` ends inside the pixel array. Every row of an empty width does. -/
def HasRow (grid : Grid) (y : Nat) : Prop :=
  y * grid.width + grid.width ≤ grid.pixels.size

instance (grid : Grid) (y : Nat) : Decidable (grid.HasRow y) :=
  inferInstanceAs (Decidable (_ ≤ _))

def row? (grid : Grid) (y : Nat) : Option (Array Color) :=
  if grid.HasRow y then
    some (grid.pixels.extract (y * grid.width) (y * grid.width + grid.width))
  else none

/-- Overwrites `pixels` from index `start` on. -/
def overwrite (pixels : Array Color) (start : Nat) (row : Array Color) : Array Color :=
  Nat.fold row.size (fun x _ pixels ↦ pixels.setIfInBounds (start + x) row[x]) pixels

theorem size_overwrite_fold (pixels : Array Color) (start : Nat) (row : Array Color)
    (count : Nat) (hcount : count ≤ row.size) :
    (Nat.fold count (fun x hx (pixels : Array Color) ↦
      pixels.setIfInBounds (start + x) (getElem row x (Nat.lt_of_lt_of_le hx hcount))) pixels).size =
      pixels.size := by
  induction count with
  | zero => rfl
  | succ count ih =>
    rw [Nat.fold_succ, Array.size_setIfInBounds]
    exact ih (Nat.le_of_succ_le hcount)

theorem size_overwrite (pixels : Array Color) (start : Nat) (row : Array Color) :
    (overwrite pixels start row).size = pixels.size :=
  size_overwrite_fold pixels start row row.size (Nat.le_refl _)

/-- Replaces row `y`; `none` when the grid has no such row or the new row has another width. -/
def setRow? (grid : Grid) (y : Nat) (row : Array Color) : Option Grid :=
  if grid.HasRow y ∧ row.size = grid.width then
    some { grid with
      pixels := overwrite grid.pixels (y * grid.width) row
      size_pixels := by rw [size_overwrite, grid.size_pixels] }
  else none

/-- Gives a whole row one color. The row's existence is checked before a row of that width is
made, since a grid without rows may be arbitrarily wide. -/
def fillRow? (grid : Grid) (y : Nat) (color : Color) : Option Grid :=
  if grid.HasRow y then grid.setRow? y (Array.replicate grid.width color) else none

theorem fillRow?_eq_setRow? (grid : Grid) (y : Nat) (color : Color) :
    grid.fillRow? y color = grid.setRow? y (Array.replicate grid.width color) := by
  by_cases h : grid.HasRow y <;> simp [fillRow?, setRow?, h]

end Grid

end DualPlaneVideo
