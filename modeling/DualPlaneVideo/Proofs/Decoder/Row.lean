import DualPlaneVideo.Proofs.Decoder.Reachable

/-!
# The row of a line

A row of the frame, column by column: every pixel of it is composited from the decoded pixels of
both planes, made transparent or opaque by their rules under the matte flags of its position, and
weighted by the contribution factors of its position.
-/

namespace DualPlaneVideo

namespace Decoder

/-- The matte after the steps at all positions up to this one. -/
def matteAt (registers : RegisterFile) (position : Nat) : MatteState :=
  (startMatte registers).run registers.matteCommands (position + 1)

/-- What a plane shows of a decoded pixel. A plane that is off, and plane A beside direct color, has
no transparency of its own to resolve. -/
def shownPixel (registers : RegisterFile) (flags : MatteFlags) (plane : Plane) (pixel : Color) :
    Color :=
  if registers.codingMethod plane = .off ∨
      plane = .a ∧ registers.codingMethod .b = .rgb555 then pixel
  else
    let rule : TransparencyRule := {
      condition := TransparencyControl.condition registers.transparency plane
      transparentColor := registers.transparentColor.get plane
      maskColor := registers.maskColor.get plane }
    rule.resolve pixel flags

/-- The screen color of the decoded pixels at plane pixel `x`. -/
def rowColor (registers : RegisterFile) (x : Nat) (pixels : PerPlane Color) : Color :=
  let matte := matteAt registers (x / 2)
  let shown (plane : Plane) := shownPixel registers (matte.flags plane) plane (pixels.get plane)
  Compositing.composite (.ofFn shown) (.ofCode registers.backdrop) matte.factors
    ⟨registers.frontPlane, TransparencyControl.mixes registers.transparency⟩

theorem showsImage_eq_false_iff {registers : RegisterFile} {plane : Plane} :
    LineView.showsImage registers plane = false ↔
      registers.codingMethod plane = .off ∨
        plane = .a ∧ registers.codingMethod .b = .rgb555 := by
  unfold LineView.showsImage
  cases plane with
  | a => simp [imp_iff_not_or]
  | b => simp

/-- The view of a line resolves a pixel as its plane's registers say. -/
theorem resolved_ofRegisters (registers : RegisterFile) (matte : MatteState) (plane : Plane)
    (pixel : Color) :
    (LineView.ofRegisters registers).resolved matte plane pixel =
      shownPixel registers (matte.flags plane) plane pixel := by
  unfold LineView.resolved LineView.ofRegisters shownPixel
  dsimp only
  rw [PerPlane.get_ofFn, LineView.rule?]
  cases hshows : LineView.showsImage registers plane with
  | true =>
    have hnone := mt showsImage_eq_false_iff.mpr (by rw [hshows]; exact Bool.noConfusion)
    rw [if_pos rfl, if_neg hnone]
  | false =>
    rw [if_neg Bool.false_ne_true, if_pos (showsImage_eq_false_iff.mp hshows)]

theorem screenColor_ofRegisters {registers : RegisterFile} {lines : PerPlane (Array Color)}
    {x : Nat} {pixels : PerPlane Color}
    (hpixels : ∀ plane, (lines.get plane)[x]? = some (pixels.get plane)) :
    (LineView.ofRegisters registers).screenColor lines (matteAt registers (x / 2)) x =
      rowColor registers x pixels := by
  have hshown (plane : Plane) :
      (LineView.ofRegisters registers).resolved (matteAt registers (x / 2)) plane
          ((lines.get plane).getD x .transparent) =
        shownPixel registers ((matteAt registers (x / 2)).flags plane) plane
          (pixels.get plane) := by
    rw [resolved_ofRegisters, Array.getD_eq_getD_getElem?, hpixels plane]
    rfl
  unfold LineView.screenColor rowColor
  simp only [hshown]
  rfl

variable {decoder : Decoder} {sources : PerPlane (List UInt8)} {lines : PerPlane PlaneLine}

/-- Decoded lines fill the plane buffers to the last pixel. -/
theorem FitsFormat.decodeLines_eq_ok (h : decoder.FitsFormat)
    (hlines : ∀ plane, PlaneLine.decode decoder.registers plane decoder.format.baseWidth sources =
      .ok (lines.get plane)) :
    decoder.decodeLines sources =
      ({ decoder with planeLines := lines.map PlaneLine.pixels },
        .ok (lines.map PlaneLine.consumed)) :=
  Decoder.decodeLines_eq_ok h.size_planeLines hlines

/-- Every column of the scanned row has its color. -/
theorem getElem?_scanRow (hlines : ∀ plane,
      (lines.get plane).pixels.size = 2 * decoder.format.baseWidth) {column : Nat}
    (hcolumn : column < decoder.format.screenWidth) :
    let x := LineView.planePixel decoder.format.doubleWidth column
    ∃ pixels : PerPlane Color, (∀ plane, (lines.get plane).pixels[x]? = some (pixels.get plane)) ∧
      (scanRow { decoder with planeLines := lines.map PlaneLine.pixels }).row[column]? =
        some (rowColor decoder.registers x pixels) := by
  intro x
  have hx : x < 2 * decoder.format.baseWidth := LineView.planePixel_lt hcolumn
  have hpixel (plane : Plane) :
      (lines.get plane).pixels[x]? = some ((lines.get plane).pixels.getD x .transparent) := by
    rw [Array.getD_eq_getD_getElem?, Array.getElem?_eq_getElem (by rw [hlines]; exact hx)]
    rfl
  refine ⟨.ofFn fun plane ↦ (lines.get plane).pixels.getD x .transparent, ?_, ?_⟩
  · intro plane
    rw [PerPlane.get_ofFn, hpixel]
  · rw [scanRow, LineView.getElem?_row_scan hcolumn]
    apply congrArg some
    apply screenColor_ofRegisters
    intro plane
    rw [PerPlane.get_ofFn, PerPlane.get_map]
    exact hpixel plane

/-- While the display is enabled and the frame has lines left, a line that can be decoded replaces
its own row of the frame, column by column, and its own entry of the backdrop. The contribution
factors end as the last step of the matte leaves them, and no other register changes. -/
theorem showLine_eq_row (reachable : decoder.Reachable)
    (henabled : decoder.registers.system.displayEnabled = true)
    (hline : decoder.line < decoder.format.activeLines)
    (hlines : ∀ plane, PlaneLine.decode decoder.registers plane decoder.format.baseWidth sources =
      .ok (lines.get plane)) :
    ∃ frame backdrop : Grid,
      decoder.showLine sources =
        ({ decoder with
          registers := { decoder.registers with
            contributionFactor := ((startMatte decoder.registers).run
              decoder.registers.matteCommands decoder.format.baseWidth).factors }
          planeLines := lines.map PlaneLine.pixels
          frame
          backdrop }, .ok (lines.map PlaneLine.consumed)) ∧
      (∀ column < decoder.format.screenWidth,
        let x := LineView.planePixel decoder.format.doubleWidth column
        ∃ pixels : PerPlane Color,
          (∀ plane, (lines.get plane).pixels[x]? = some (pixels.get plane)) ∧
            frame.get? column decoder.line = some (rowColor decoder.registers x pixels)) ∧
      (∀ x y, y ≠ decoder.line → frame.get? x y = decoder.frame.get? x y) ∧
      backdrop.get? 0 decoder.line = some (.ofCode decoder.registers.backdrop) ∧
      ∀ x y, y ≠ decoder.line → backdrop.get? x y = decoder.backdrop.get? x y := by
  have hfit := reachable.fitsFormat
  have hsize (plane : Plane) : (lines.get plane).pixels.size = 2 * decoder.format.baseWidth :=
    PlaneLine.size_decode (hlines plane)
  have hdecoded : FitsFormat { decoder with planeLines := lines.map PlaneLine.pixels } := by
    apply hfit.of_size_eq
    intro plane
    rw [PerPlane.get_map, hsize plane, hfit.size_planeLines plane]
    rfl
  obtain ⟨frame, hframe, hscan⟩ := hdecoded.scanLines_eq_ok hline
  refine ⟨frame, decoder.backdrop.set 0 decoder.line (.ofCode decoder.registers.backdrop),
    ?_, ?_, ?_, ?_, ?_⟩
  · rw [showLine, if_pos henabled, pictureLine, hfit.decodeLines_eq_ok hlines]
    dsimp only
    rw [if_pos hline, hscan]
    dsimp only
    rw [scanRow, LineView.scan_matte]
    rfl
  · intro column hcolumn x
    obtain ⟨pixels, hpixels, hcolor⟩ := getElem?_scanRow hsize hcolumn
    refine ⟨pixels, hpixels, ?_⟩
    rw [Grid.get?_setRow? hframe (by rwa [hfit.height_frame]), if_pos rfl]
    exact hcolor
  · intro x y hy
    exact Grid.get?_setRow?_of_ne hframe hy
  · rw [Grid.get?_set _ _ _ _ (by rw [hfit.width_backdrop]; exact Nat.one_pos)
      (by rwa [hfit.height_backdrop]), if_pos ⟨rfl, rfl⟩]
  · intro x y hy
    exact Grid.get?_set_of_ne _ _ hy

/-- Red from CLUT7 on plane A, whose contribution a matte command ends at the second position. -/
def redWithMatte : Decoder :=
  [.system 0x12 0x8000, .register 0xC0 3, .register 0xC1 8, .paletteEntry 5 0xFF0000,
    .matteCommand 0 0x400002].foldl write (initial default)

/-- Its plane lines, from 360 source bytes on plane A. -/
def redLines : PerPlane PlaneLine :=
  ⟨⟨Array.replicate 720 (.solid 255 0 0), 360⟩, .blank 360 0⟩

theorem decode_redWithMatte (plane : Plane) :
    PlaneLine.decode redWithMatte.registers plane redWithMatte.format.baseWidth
      ⟨List.replicate 360 5, []⟩ = .ok (redLines.get plane) := by
  have hdirect : redWithMatte.registers.codingMethod .b ≠ .rgb555 := by decide +kernel
  cases plane with
  | a =>
    have hown : redWithMatte.registers.codingMethod .a ≠ .off := by decide +kernel
    have hcolor : PaletteView.color .lowerHalf redWithMatte.registers.palette 5 =
        .solid 255 0 0 := by decide +kernel
    rw [PlaneLine.decode_own hdirect hown]
    change (decodeIndexed redWithMatte.registers.palette .lowerHalf false 360
      (List.replicate 360 5)).map _ = _
    rw [decodeIndexed, takeBytes, codeBytes, if_neg Bool.false_ne_true,
      if_pos (Nat.le_of_eq List.length_replicate.symm), List.take_replicate]
    simp only [Except.map, Bool.false_eq_true, if_false, List.map_replicate, hcolor]
    have hwide : PlaneLine.widen .normal8 (List.replicate 360 (Color.solid 255 0 0)) =
        List.replicate 720 (Color.solid 255 0 0) := PlaneLine.widen_replicate 360 _
    change Except.ok (PlaneLine.mk (PlaneLine.widen .normal8 _).toArray 360) = _
    rw [Nat.min_self, hwide]
    rfl
  | b => exact PlaneLine.decode_off hdirect (by decide +kernel)

theorem showLine_eq_row_red_with_matte :
    ∃ after, redWithMatte.showLine ⟨List.replicate 360 5, []⟩ = (after, .ok ⟨360, 0⟩) ∧
      after.frame.get? 0 0 = some (.solid 255 0 0) ∧
      after.frame.get? 1 0 = some (.solid 16 16 16) := by
  have reachable : redWithMatte.Reachable :=
    (((((Reachable.initial default).write (.system 0x12 0x8000)).write (.register 0xC0 3)).write
      (.register 0xC1 8)).write (.paletteEntry 5 0xFF0000)).write (.matteCommand 0 0x400002)
  obtain ⟨frame, backdrop, hshow, hrow, -, -, -⟩ :=
    showLine_eq_row reachable (by decide +kernel) (by decide +kernel) decode_redWithMatte
  have hpixel {x : Nat} (hx : x < 720) {pixels : PerPlane Color}
      (h : ∀ plane, (redLines.get plane).pixels[x]? = some (pixels.get plane)) :
      pixels = ⟨.solid 255 0 0, .transparent⟩ := by
    have hreplicate (color : Color) : (Array.replicate 720 color)[x]? = some color := by
      rw [Array.getElem?_replicate, if_pos hx]
    apply PerPlane.ext
    · exact Option.some.inj ((h .a).symm.trans (hreplicate _))
    · exact Option.some.inj ((h .b).symm.trans (hreplicate _))
  refine ⟨_, hshow, ?_, ?_⟩
  · obtain ⟨pixels, hpixels, hcolor⟩ := hrow 0 (by decide +kernel)
    rw [hpixel (by decide) hpixels] at hcolor
    refine hcolor.trans ?_
    decide +kernel
  · obtain ⟨pixels, hpixels, hcolor⟩ := hrow 1 (by decide +kernel)
    rw [hpixel (by decide) hpixels] at hcolor
    refine hcolor.trans ?_
    decide +kernel

end Decoder

end DualPlaneVideo
