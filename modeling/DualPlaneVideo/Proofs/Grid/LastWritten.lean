import DualPlaneVideo.Proofs.Arithmetic.Frame
import Mathlib.Data.List.Induction

/-!
# What a grid shows

A grid is made, resized, filled, and written cell by cell and row by row. Whatever is done to it, a
cell shows the last color that was written to it since the grid got its size, and is transparent if
none was. A write to one cell never shows in another: no two cells share a place in the pixel array.
Their places can be calculated in 32 bits if the pixels can be counted in 32 bits.
-/

namespace DualPlaneVideo

namespace Grid

variable {grid after : Grid} {x y : Nat}

/-! ## Sizes -/

structure Size where
  width : Nat
  height : Nat
  deriving DecidableEq

namespace Size

/-- The pixels can be counted in 32 bits. -/
def Fits (size : Size) : Prop := size.width * size.height ≤ 0xFFFFFFFF

instance (size : Size) : Decidable size.Fits := inferInstanceAs (Decidable (_ ≤ _))

end Size

def size (grid : Grid) : Size := ⟨grid.width, grid.height⟩

theorem resize_size (grid : Grid) : grid.resize grid.width grid.height = grid := by
  rw [resize, if_pos ⟨rfl, rfl⟩]

theorem resize_of_ne {size : Size} (h : size ≠ grid.size) :
    grid.resize size.width size.height = blank size.width size.height := by
  rw [resize, if_neg]
  rintro ⟨hwidth, hheight⟩
  exact h (congrArg₂ Size.mk hwidth.symm hheight.symm)

/-! ## Filling and writing rows -/

theorem get?_of_pixels_eq_replicate {color : Color}
    (h : grid.pixels = Array.replicate (grid.width * grid.height) color) (hx : x < grid.width)
    (hy : y < grid.height) : grid.get? x y = some color := by
  have hcell := cell_lt hx hy
  rw [grid.size_pixels] at hcell
  rw [← getElem?_pixels hx hy, h, Array.getElem?_replicate, if_pos hcell]

/-- Writes to some columns of a row, which is borrowed and put back; `none` if the grid has no such
row. -/
def writeRow? (grid : Grid) (y : Nat) (colors : Nat → Option Color) : Option Grid :=
  (grid.row? y).bind fun row ↦ grid.setRow? y (row.mapIdx fun x color ↦ (colors x).getD color)

theorem exists_writeRow?_iff {colors : Nat → Option Color} :
    (∃ after, grid.writeRow? y colors = some after) ↔ grid.HasRow y := by
  constructor
  · rintro ⟨after, hafter⟩
    obtain ⟨row, hrow, -⟩ := Option.bind_eq_some_iff.mp hafter
    by_contra hnone
    rw [row?, if_neg hnone] at hrow
    cases hrow
  · intro hrow
    obtain ⟨row, hborrowed, hsize⟩ := row?_eq_some hrow
    refine ⟨_, Option.bind_eq_some_iff.mpr ⟨row, hborrowed, if_pos ⟨hrow, ?_⟩⟩⟩
    rw [Array.size_mapIdx, hsize]

theorem get?_writeRow? {colors : Nat → Option Color} {target : Nat}
    (h : grid.writeRow? target colors = some after) (hx : x < grid.width) (hy : y < grid.height) :
    after.get? x y = (if y = target then colors x else none).or (grid.get? x y) := by
  obtain ⟨row, hrow, hset⟩ := Option.bind_eq_some_iff.mp h
  rw [get?_setRow? hset hy]
  by_cases hsame : y = target
  · subst hsame
    obtain ⟨color, hcolor⟩ : ∃ color, grid.get? x y = some color :=
      ⟨_, (getElem?_pixels hx hy).symm.trans (Array.getElem?_eq_getElem (cell_lt hx hy))⟩
    rw [if_pos rfl, if_pos rfl, Array.getElem?_mapIdx, getElem?_row? hrow hx hy, hcolor]
    cases colors x <;> rfl
  · rw [if_neg hsame, if_neg hsame, Option.none_or]

/-- A row that is written in all of its columns is replaced. -/
theorem writeRow?_eq_setRow? {colors : Nat → Option Color} {row : Array Color}
    (hsize : row.size = grid.width) (h : ∀ x < grid.width, colors x = row[x]?) :
    grid.writeRow? y colors = grid.setRow? y row := by
  by_cases hrow : grid.HasRow y
  · obtain ⟨borrowed, hborrowed, hwidth⟩ := row?_eq_some hrow
    have hwritten : borrowed.mapIdx (fun x color ↦ (colors x).getD color) = row := by
      apply Array.ext
      · rw [Array.size_mapIdx, hwidth, hsize]
      · intro x _ hx
        rw [Array.getElem_mapIdx, h x (hsize ▸ hx), Array.getElem?_eq_getElem hx, Option.getD_some]
    rw [writeRow?, hborrowed, Option.bind_some, hwritten]
  · rw [writeRow?, row?, if_neg hrow, setRow?, if_neg fun hfits ↦ hrow hfits.1, Option.bind_none]

theorem setRow?_eq_writeRow? {row : Array Color} (hsize : row.size = grid.width) :
    grid.setRow? y row = grid.writeRow? y fun x ↦ row[x]? :=
  (writeRow?_eq_setRow? hsize fun _ _ ↦ rfl).symm

theorem fillRow?_eq_writeRow? (grid : Grid) (y : Nat) (color : Color) :
    grid.fillRow? y color = grid.writeRow? y fun _ ↦ some color := by
  rw [fillRow?_eq_setRow?, writeRow?_eq_setRow? Array.size_replicate]
  intro x hx
  rw [Array.getElem?_replicate, if_pos hx]

/-! ## Changes -/

/-- What can be done to a grid. A row is written in the columns that have a color. -/
inductive Change where
  /-- Another grid takes its place. -/
  | create (size : Size)
  | resize (size : Size)
  | set (x y : Nat) (color : Color)
  | fill (color : Color)
  | writeRow (y : Nat) (colors : Nat → Option Color)

def perform? (grid : Grid) : Change → Option Grid
  | .create size => some (blank size.width size.height)
  | .resize size => some (grid.resize size.width size.height)
  | .set x y color => some (grid.set x y color)
  | .fill color => some (grid.fill color)
  | .writeRow y colors => grid.writeRow? y colors

/-- The grid after the changes, one by one; `none` if one of them is to a row that is not there. -/
def performAll? (grid : Grid) (changes : List Change) : Option Grid :=
  changes.foldlM perform? grid

namespace Change

def Fits : Change → Prop
  | create size | resize size => size.Fits
  | _ => True

/-- The change makes the grid anew. Resizing to the size that the grid has does not. -/
def Renews (size : Size) : Change → Prop
  | create _ => True
  | resize other => other ≠ size
  | _ => False

/-- The size of the grid after the change. -/
def sizeAfter (size : Size) : Change → Size
  | create other | resize other => other
  | _ => size

/-- A row that the change writes to is one of the grid. -/
def HasRow (size : Size) : Change → Prop
  | writeRow y _ => y < size.height ∨ size.width = 0
  | _ => True

/-- The color that the change writes to a cell. -/
def colorAt? (x y : Nat) : Change → Option Color
  | set targetX targetY color => if x = targetX ∧ y = targetY then some color else none
  | fill color => some color
  | writeRow target colors => if y = target then colors x else none
  | _ => none

variable {change : Change} {size : Size}

theorem sizeAfter_of_not_renews (h : ¬ change.Renews size) : change.sizeAfter size = size := by
  cases change with
  | create _ => exact absurd trivial h
  | resize _ => exact Decidable.not_not.mp h
  | set _ _ _ | fill _ | writeRow _ _ => rfl

theorem Fits.sizeAfter (h : change.Fits) (hsize : size.Fits) : (change.sizeAfter size).Fits := by
  cases change with
  | create _ | resize _ => exact h
  | set _ _ _ | fill _ | writeRow _ _ => exact hsize

end Change

variable {change : Change}

theorem exists_perform?_iff :
    (∃ after, grid.perform? change = some after) ↔ change.HasRow grid.size := by
  cases change with
  | create _ | resize _ | set _ _ _ | fill _ => exact ⟨fun _ ↦ trivial, fun _ ↦ ⟨_, rfl⟩⟩
  | writeRow y colors => exact exists_writeRow?_iff.trans hasRow_iff

theorem size_perform? (h : grid.perform? change = some after) :
    after.size = change.sizeAfter grid.size := by
  cases change with
  | create size =>
    cases h
    rfl
  | resize size =>
    cases h
    exact congrArg₂ Size.mk (width_resize grid _ _) (height_resize grid _ _)
  | set x y color =>
    cases h
    exact congrArg₂ Size.mk (width_set grid x y color) (height_set grid x y color)
  | fill color =>
    cases h
    rfl
  | writeRow y colors =>
    obtain ⟨row, -, hset⟩ := Option.bind_eq_some_iff.mp h
    exact congrArg₂ Size.mk (width_of_setRow? hset) (height_of_setRow? hset)

/-- A grid that is made anew is blank. -/
theorem perform?_of_renews (hrenews : change.Renews grid.size) :
    grid.perform? change =
      some (blank (change.sizeAfter grid.size).width (change.sizeAfter grid.size).height) := by
  cases change with
  | create _ => rfl
  | resize _ => exact congrArg some (resize_of_ne hrenews)
  | set _ _ _ | fill _ | writeRow _ _ => exact absurd hrenews id

/-- Any other change puts its colors over those that are there. -/
theorem get?_perform? (hkept : ¬ change.Renews grid.size) (h : grid.perform? change = some after)
    (hx : x < grid.width) (hy : y < grid.height) :
    after.get? x y = (change.colorAt? x y).or (grid.get? x y) := by
  cases change with
  | create size => exact absurd trivial hkept
  | resize size =>
    -- Any other size would have renewed the grid.
    have hsize : size = grid.size := Decidable.not_not.mp hkept
    subst hsize
    cases h
    exact congrArg (get? · x y) (resize_size grid)
  | set targetX targetY color =>
    cases h
    rw [get?_set grid targetX targetY color hx hy, Change.colorAt?]
    split <;> rfl
  | fill color =>
    cases h
    exact get?_of_pixels_eq_replicate rfl hx hy
  | writeRow target colors => exact get?_writeRow? h hx hy

/-! ## Runs of changes -/

variable {changes earlier recent : List Change} {size : Size}

/-- The size of a grid after the changes. -/
def sizeAfter (size : Size) (changes : List Change) : Size :=
  changes.foldl Change.sizeAfter size

/-- Every row that the changes write to is one of the grid at that time. -/
def HaveRows (size : Size) : List Change → Prop
  | [] => True
  | change :: changes => change.HasRow size ∧ HaveRows (change.sizeAfter size) changes

/-- The last color that the changes write to a cell. -/
def lastColor? (x y : Nat) (changes : List Change) : Option Color :=
  (changes.filterMap (Change.colorAt? x y)).getLast?

/-- The grid is new after the earlier changes, and the recent ones do not make it anew. -/
structure IsRecent (size : Size) (earlier recent : List Change) : Prop where
  isNew : earlier = [] ∨ ∃ before change,
    earlier = before ++ [change] ∧ change.Renews (sizeAfter size before)
  isKept : ∀ change ∈ recent, ¬ change.Renews (sizeAfter size earlier)

theorem performAll?_append_eq_some_iff :
    grid.performAll? (earlier ++ recent) = some after ↔
      ∃ between, grid.performAll? earlier = some between ∧
        between.performAll? recent = some after := by
  rw [performAll?, List.foldlM_append]
  exact Option.bind_eq_some_iff

theorem performAll?_cons_eq_some_iff :
    grid.performAll? (change :: changes) = some after ↔
      ∃ next, grid.perform? change = some next ∧ next.performAll? changes = some after := by
  rw [performAll?, List.foldlM_cons]
  exact Option.bind_eq_some_iff

theorem sizeAfter_append (size : Size) (earlier recent : List Change) :
    sizeAfter size (earlier ++ recent) = sizeAfter (sizeAfter size earlier) recent :=
  List.foldl_append

theorem sizeAfter_of_not_renews (h : ∀ change ∈ changes, ¬ change.Renews size) :
    sizeAfter size changes = size := by
  induction changes with
  | nil => rfl
  | cons change changes ih =>
    obtain ⟨hchange, hchanges⟩ := List.forall_mem_cons.mp h
    rw [sizeAfter, List.foldl_cons, Change.sizeAfter_of_not_renews hchange]
    exact ih hchanges

theorem fits_sizeAfter (hsize : size.Fits) (h : ∀ change ∈ changes, change.Fits) :
    (sizeAfter size changes).Fits := by
  induction changes generalizing size with
  | nil => exact hsize
  | cons change changes ih =>
    obtain ⟨hchange, hchanges⟩ := List.forall_mem_cons.mp h
    exact ih (hchange.sizeAfter hsize) hchanges

theorem exists_performAll?_iff :
    (∃ after, grid.performAll? changes = some after) ↔ HaveRows grid.size changes := by
  induction changes generalizing grid with
  | nil => exact ⟨fun _ ↦ trivial, fun _ ↦ ⟨grid, rfl⟩⟩
  | cons change changes ih =>
    simp only [performAll?_cons_eq_some_iff, HaveRows]
    constructor
    · rintro ⟨after, next, hnext, hafter⟩
      rw [← size_perform? hnext]
      exact ⟨exists_perform?_iff.mp ⟨next, hnext⟩, ih.mp ⟨after, hafter⟩⟩
    · rintro ⟨hrow, hrows⟩
      obtain ⟨next, hnext⟩ := exists_perform?_iff.mpr hrow
      rw [← size_perform? hnext] at hrows
      obtain ⟨after, hafter⟩ := ih.mpr hrows
      exact ⟨after, next, hnext, hafter⟩

theorem size_performAll? (h : grid.performAll? changes = some after) :
    after.size = sizeAfter grid.size changes := by
  induction changes generalizing grid with
  | nil =>
    cases h
    rfl
  | cons change changes ih =>
    obtain ⟨next, hnext, hafter⟩ := performAll?_cons_eq_some_iff.mp h
    rw [ih hafter, size_perform? hnext]
    rfl

theorem lastColor?_cons (x y : Nat) (change : Change) (changes : List Change) :
    lastColor? x y (change :: changes) = (lastColor? x y changes).or (change.colorAt? x y) := by
  rw [lastColor?, List.filterMap_cons]
  cases change.colorAt? x y with
  | none => rw [Option.or_none]; rfl
  | some color =>
    rw [List.getLast?_cons, ← lastColor?]
    cases lastColor? x y changes <;> rfl

/-- While the grid is not made anew, the last color of a cell covers the one that was there. -/
theorem get?_performAll? (hkept : ∀ change ∈ changes, ¬ change.Renews grid.size)
    (h : grid.performAll? changes = some after) (hx : x < grid.width) (hy : y < grid.height) :
    after.get? x y = (lastColor? x y changes).or (grid.get? x y) := by
  induction changes generalizing grid with
  | nil =>
    cases h
    rfl
  | cons change changes ih =>
    obtain ⟨hchange, hchanges⟩ := List.forall_mem_cons.mp hkept
    obtain ⟨next, hnext, hafter⟩ := performAll?_cons_eq_some_iff.mp h
    have hsize : next.size = grid.size :=
      (size_perform? hnext).trans (Change.sizeAfter_of_not_renews hchange)
    have hwidth : next.width = grid.width := congrArg Size.width hsize
    have hheight : next.height = grid.height := congrArg Size.height hsize
    -- The rest covers the first change, and the first change what was there before.
    calc
      after.get? x y = (lastColor? x y changes).or (next.get? x y) :=
        ih (by rwa [hsize]) hafter (by rwa [hwidth]) (by rwa [hheight])
      _ = (lastColor? x y changes).or ((change.colorAt? x y).or (grid.get? x y)) := by
        rw [get?_perform? hchange hnext hx hy]
      _ = (lastColor? x y (change :: changes)).or (grid.get? x y) := by
        rw [lastColor?_cons, Option.or_assoc]

/-- A new grid is blank. -/
theorem IsRecent.eq_blank (h : IsRecent size earlier recent)
    (hearlier : (blank size.width size.height).performAll? earlier = some grid) :
    grid = blank (sizeAfter size earlier).width (sizeAfter size earlier).height := by
  rcases h.isNew with rfl | ⟨before, change, rfl, hrenews⟩
  · cases hearlier
    rfl
  · obtain ⟨between, hbetween, hlast⟩ := performAll?_append_eq_some_iff.mp hearlier
    obtain ⟨next, hnext, hafter⟩ := performAll?_cons_eq_some_iff.mp hlast
    cases hafter
    -- What the grid was before its last renewal does not matter, its size aside.
    have hsize : between.size = sizeAfter size before := size_performAll? hbetween
    rw [← hsize] at hrenews
    rw [perform?_of_renews hrenews, Option.some_inj] at hnext
    rw [← hnext, sizeAfter_append, ← hsize]
    rfl

/-- The changes that made the grid anew can be told from those since. -/
theorem exists_isRecent (size : Size) (changes : List Change) :
    ∃ earlier recent, changes = earlier ++ recent ∧ IsRecent size earlier recent := by
  induction changes using List.reverseRecOn with
  | nil => exact ⟨[], [], rfl, Or.inl rfl, List.forall_mem_nil _⟩
  | append_singleton changes change ih =>
    by_cases hrenews : change.Renews (sizeAfter size changes)
    · exact ⟨changes ++ [change], [], (List.append_nil _).symm,
        Or.inr ⟨changes, change, rfl, hrenews⟩, List.forall_mem_nil _⟩
    · obtain ⟨earlier, recent, rfl, hrecent⟩ := ih
      rw [sizeAfter_append, sizeAfter_of_not_renews hrecent.isKept] at hrenews
      refine ⟨earlier, recent ++ [change], List.append_assoc _ _ _, hrecent.isNew, ?_⟩
      intro other hother
      rcases List.mem_append.mp hother with hmem | hlast
      · exact hrecent.isKept other hmem
      · rwa [List.mem_singleton.mp hlast]

/-! ## What is shown -/

/-- The grid shows a color in every cell, and shows the same in its rows and in its pixel array, row
by row. -/
structure Shows (grid : Grid) (color : Nat → Nat → Color) : Prop where
  cell : ∀ x y, x < grid.width → y < grid.height → grid.get? x y = some (color x y)
  row : ∀ y < grid.height, ∃ row, grid.row? y = some row ∧ row.size = grid.width ∧
    ∀ x < grid.width, row[x]? = grid.get? x y
  pixel : ∀ x y, x < grid.width → y < grid.height →
    grid.pixels[y * grid.width + x]? = grid.get? x y

theorem shows_of_cells {color : Nat → Nat → Color}
    (h : ∀ x y, x < grid.width → y < grid.height → grid.get? x y = some (color x y)) :
    grid.Shows color where
  cell := h
  row y hy := by
    obtain ⟨row, hrow, hsize⟩ := row?_eq_some (hasRow_of_lt hy)
    exact ⟨row, hrow, hsize, fun x hx ↦ getElem?_row? hrow hx hy⟩
  pixel _ _ hx hy := getElem?_pixels hx hy

theorem IsRecent.shows (h : IsRecent size earlier recent)
    (hrun : (blank size.width size.height).performAll? (earlier ++ recent) = some after) :
    after.Shows fun x y ↦ (lastColor? x y recent).getD .transparent := by
  obtain ⟨between, hearlier, hrecent⟩ := performAll?_append_eq_some_iff.mp hrun
  obtain rfl := h.eq_blank hearlier
  have hsize : after.size = sizeAfter size earlier :=
    (size_performAll? hrecent).trans (sizeAfter_of_not_renews h.isKept)
  have hwidth : after.width = (sizeAfter size earlier).width := congrArg Size.width hsize
  have hheight : after.height = (sizeAfter size earlier).height := congrArg Size.height hsize
  apply shows_of_cells
  intro x y hx hy
  rw [hwidth] at hx
  rw [hheight] at hy
  rw [get?_performAll? h.isKept hrecent hx hy, get?_of_pixels_eq_replicate rfl hx hy]
  cases lastColor? x y recent <;> rfl

/-! ## Places in 32 bits -/

theorem allFit_cell_of_fits (h : grid.size.Fits) (x y : Nat) :
    AllFit (grid.cellCalculations x y) := by
  unfold cellCalculations
  split
  · rename_i hinside
    have hcell := cell_lt hinside.1 hinside.2
    have hpixels : grid.width * grid.height ≤ 0xFFFFFFFF := h
    rw [grid.size_pixels] at hcell
    simp only [allFit_cons, allFit_nil, and_true, Calculation.fits_uint32]
    omega
  · exact allFit_nil

theorem allFit_row_of_fits (h : grid.size.Fits) (hy : y < grid.height) :
    AllFit (grid.rowCalculations y) := by
  have hrow := hasRow_of_lt hy
  have hpixels : grid.width * grid.height ≤ 0xFFFFFFFF := h
  rw [HasRow, grid.size_pixels] at hrow
  simp only [rowCalculations, allFit_cons, allFit_nil, and_true, Calculation.fits_uint32,
    Calculation.fits_usize]
  omega

/-- After any changes, of which the row writes need a row to write to, a grid has a color for every
cell inside its size and for no other: the last one that was written to the cell since the grid was
made anew, transparent before that. A row and the pixel array, row by row, show the same colors.
Writing outside changes nothing, nor does resizing to the same size. Where the pixels of every size
can be counted in 32 bits, the place of each cell is found without overflow. -/
theorem changes_show_last_written (size : Size) (changes : List Change) (hsize : size.Fits)
    (hfits : ∀ change ∈ changes, change.Fits) :
    let run := (blank size.width size.height).performAll? changes
    ((∃ after, run = some after) ↔ HaveRows size changes) ∧
      (∃ earlier recent, changes = earlier ++ recent ∧ IsRecent size earlier recent) ∧
      ∀ after, run = some after →
        after.size = sizeAfter size changes ∧
        after.pixels.size = after.width * after.height ∧
        (∀ earlier recent, changes = earlier ++ recent → IsRecent size earlier recent →
          after.Shows fun x y ↦ (lastColor? x y recent).getD .transparent) ∧
        (∀ x y, ¬ (x < after.width ∧ y < after.height) →
          after.get? x y = none ∧ ∀ color, after.set x y color = after) ∧
        after.resize after.width after.height = after ∧
        after.pixels.size ≤ 0xFFFFFFFF ∧
        (∀ x y, AllFit (after.cellCalculations x y)) ∧
        ∀ y < after.height, AllFit (after.rowCalculations y) := by
  intro run
  refine ⟨exists_performAll?_iff, exists_isRecent size changes, ?_⟩
  intro after hrun
  have hafter : after.size = sizeAfter size changes := size_performAll? hrun
  have hcounted : after.size.Fits := by
    rw [hafter]
    exact fits_sizeAfter hsize hfits
  refine ⟨hafter, after.size_pixels, ?_, ?_, resize_size after, ?_, allFit_cell_of_fits hcounted,
    fun y hy ↦ allFit_row_of_fits hcounted hy⟩
  · rintro earlier recent rfl hrecent
    exact hrecent.shows hrun
  · intro x y houtside
    exact ⟨get?_eq_none houtside, fun color ↦ by rw [set, if_neg houtside]⟩
  · rw [after.size_pixels]
    exact hcounted

/-- The changes of a grid of four columns that has become one of three. The blue cell is past the
right edge, in the place where the next row begins. -/
def narrowedChanges : List Change :=
  [.fill (.solid 255 0 0), .resize ⟨3, 2⟩, .set 2 0 (.solid 0 255 0), .set 3 0 (.solid 0 0 255),
    .writeRow 1 fun x ↦ if x = 2 then some (.solid 0 0 255) else none, .resize ⟨3, 2⟩]

theorem changes_show_last_written_past_right_edge :
    (Size.mk 4 2).Fits ∧ (∀ change ∈ narrowedChanges, change.Fits) ∧
      IsRecent ⟨4, 2⟩ (narrowedChanges.take 2) (narrowedChanges.drop 2) ∧
      ∃ after, (blank 4 2).performAll? narrowedChanges = some after ∧
        after.size = ⟨3, 2⟩ ∧ after.get? 2 0 = some (.solid 0 255 0) ∧
        after.get? 3 0 = none ∧ after.get? 0 1 = some .transparent ∧
        after.pixels[1 * after.width + 2]? = some (.solid 0 0 255) ∧
        after.resize after.width after.height = after ∧ AllFit (after.rowCalculations 1) := by
  have hfits : ∀ change ∈ narrowedChanges, change.Fits := by
    simp [narrowedChanges, Change.Fits, Size.Fits]
  have hrecent : IsRecent ⟨4, 2⟩ (narrowedChanges.take 2) (narrowedChanges.drop 2) :=
    { isNew := Or.inr ⟨narrowedChanges.take 1, .resize ⟨3, 2⟩, rfl, by
        simp [narrowedChanges, Change.Renews, sizeAfter, Change.sizeAfter]⟩
      isKept := by simp [narrowedChanges, Change.Renews, sizeAfter, Change.sizeAfter] }
  obtain ⟨hrows, -, hshown⟩ :=
    changes_show_last_written ⟨4, 2⟩ narrowedChanges (by decide) hfits
  obtain ⟨after, hafter⟩ := hrows.mpr (by simp [narrowedChanges, HaveRows, Change.HasRow,
    Change.sizeAfter])
  obtain ⟨hsize, -, hcolors, houtside, hresize, -, -, hplaces⟩ := hshown after hafter
  have hshows := hcolors _ _ (List.take_append_drop 2 narrowedChanges).symm hrecent
  have hwidth : after.width = 3 := congrArg Size.width hsize
  have hheight : after.height = 2 := congrArg Size.height hsize
  refine ⟨by decide, hfits, hrecent, after, hafter, hsize, ?_, ?_, ?_, ?_, hresize, ?_⟩
  · exact hshows.cell 2 0 (by omega) (by omega)
  · exact (houtside 3 0 (by omega)).1
  · exact hshows.cell 0 1 (by omega) (by omega)
  · rw [hshows.pixel 2 1 (by omega) (by omega)]
    exact hshows.cell 2 1 (by omega) (by omega)
  · exact hplaces 1 (by omega)

end Grid

end DualPlaneVideo
