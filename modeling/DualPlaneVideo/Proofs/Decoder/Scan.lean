import DualPlaneVideo.Decoder.Scan
import DualPlaneVideo.Proofs.Matte.Walk

/-!
# The row of a scan

A scan leaves one pixel for each plane pixel on a screen of double width and one for every other
plane pixel on any other screen. Each is colored under the matte as it stands after the step at its
own position.
-/

namespace DualPlaneVideo

namespace LineView

variable {view : LineView} {lines : PerPlane (Array Color)} {doubleWidth : Bool}
  {matte : MatteState}

/-- The length of the row after a number of positions. -/
def rowLength (doubleWidth : Bool) (positions : Nat) : Nat :=
  if doubleWidth then 2 * positions else positions

/-- The plane pixel that a column of the row shows. -/
def planePixel (doubleWidth : Bool) (column : Nat) : Nat :=
  if doubleWidth then column else 2 * column

/-- Every column of the row shows a pixel of the plane lines. -/
theorem planePixel_lt {count column : Nat} (h : column < rowLength doubleWidth count) :
    planePixel doubleWidth column < 2 * count := by
  cases doubleWidth with
  | true => exact h
  | false =>
    have hcolumn : column < count := h
    exact Nat.mul_lt_mul_of_pos_left hcolumn Nat.two_pos

theorem scan_succ (count : Nat) :
    view.scan lines doubleWidth matte (count + 1) =
      view.scanPosition lines doubleWidth (view.scan lines doubleWidth matte count) count := by
  unfold scan
  rw [Nat.fold_succ]
  rfl

theorem scan_matte (count : Nat) :
    (view.scan lines doubleWidth matte count).matte = matte.run view.commands count := by
  induction count with
  | zero => rfl
  | succ count ih =>
    rw [scan_succ, MatteState.run_succ, ← ih]
    rfl

/-- The color of a column of the row. -/
def columnColor (view : LineView) (lines : PerPlane (Array Color)) (doubleWidth : Bool)
    (matte : MatteState) (column : Nat) : Color :=
  let x := planePixel doubleWidth column
  view.screenColor lines (matte.run view.commands (x / 2 + 1)) x

/-- A column of the row depends on a single pixel of each line. -/
theorem columnColor_congr {others : PerPlane (Array Color)} {column : Nat}
    (h : ∀ plane, (others.get plane).getD (planePixel doubleWidth column) .transparent =
      (lines.get plane).getD (planePixel doubleWidth column) .transparent) :
    view.columnColor others doubleWidth matte column =
      view.columnColor lines doubleWidth matte column := by
  simp only [columnColor, screenColor, h]

theorem row_scan (count : Nat) :
    (view.scan lines doubleWidth matte count).row =
      ((List.range (rowLength doubleWidth count)).map
        (view.columnColor lines doubleWidth matte)).toArray := by
  induction count with
  | zero => cases doubleWidth <;> rfl
  | succ count ih =>
    have hstep : (view.scan lines doubleWidth matte count).matte.step view.commands count =
        matte.run view.commands (count + 1) := by
      rw [scan_matte, MatteState.run_succ]
    rw [scan_succ]
    unfold scanPosition
    dsimp only
    rw [hstep, ih]
    cases doubleWidth with
    | true =>
      have hodd : (2 * count + 1) / 2 = count := by omega
      have heven : 2 * count / 2 = count := by omega
      simp only [rowLength, if_true, Nat.mul_succ, List.range_succ, List.map_append,
        List.push_toArray, List.map_cons, List.map_nil, columnColor, planePixel, heven, hodd]
    | false =>
      have heven : 2 * count / 2 = count := by omega
      simp only [rowLength, Bool.false_eq_true, if_false, List.range_succ, List.map_append,
        List.push_toArray, List.map_cons, List.map_nil, columnColor, planePixel, heven]

theorem size_row_scan (count : Nat) :
    (view.scan lines doubleWidth matte count).row.size = rowLength doubleWidth count := by
  rw [row_scan, List.size_toArray, List.length_map, List.length_range]

theorem getElem?_row_scan {count column : Nat} (hcolumn : column < rowLength doubleWidth count) :
    (view.scan lines doubleWidth matte count).row[column]? =
      some (view.columnColor lines doubleWidth matte column) := by
  rw [row_scan, List.getElem?_toArray, List.getElem?_map, List.getElem?_range hcolumn]
  rfl

/-- A scan depends on the pixels at its positions and on nothing behind them. -/
theorem scan_congr {others : PerPlane (Array Color)} {count : Nat}
    (h : ∀ plane, ∀ x < 2 * count,
      (others.get plane).getD x .transparent = (lines.get plane).getD x .transparent) :
    view.scan others doubleWidth matte count = view.scan lines doubleWidth matte count := by
  have hmatte : (view.scan others doubleWidth matte count).matte =
      (view.scan lines doubleWidth matte count).matte := by rw [scan_matte, scan_matte]
  have hrow : (view.scan others doubleWidth matte count).row =
      (view.scan lines doubleWidth matte count).row := by
    rw [row_scan, row_scan]
    apply congrArg List.toArray
    apply List.map_congr_left
    intro column hcolumn
    apply columnColor_congr
    intro plane
    exact h plane _ (planePixel_lt (List.mem_range.mp hcolumn))
  calc
    view.scan others doubleWidth matte count =
        ⟨(view.scan others doubleWidth matte count).matte,
          (view.scan others doubleWidth matte count).row⟩ := rfl
    _ = ⟨(view.scan lines doubleWidth matte count).matte,
          (view.scan lines doubleWidth matte count).row⟩ := by rw [hmatte, hrow]
    _ = view.scan lines doubleWidth matte count := rfl

end LineView

end DualPlaneVideo
