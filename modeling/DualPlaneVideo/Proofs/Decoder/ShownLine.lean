import DualPlaneVideo.Proofs.Compositing
import DualPlaneVideo.Proofs.Decoder.Row

/-!
# What a line shows

What a line adds to the frame depends on registers, format and sources, and not on any earlier
picture: it writes one whole row, and every pixel of the row is opaque.
-/

namespace DualPlaneVideo

/-- Every pixel of a scanned row has been composited. -/
theorem LineView.isSolid_of_mem_scan {view : LineView} {lines : PerPlane (Array Color)}
    {doubleWidth : Bool} {matte : MatteState} {count : Nat} {color : Color}
    (h : color ∈ (view.scan lines doubleWidth matte count).row) : color.IsSolid := by
  rw [row_scan, List.mem_toArray, List.mem_map] at h
  obtain ⟨column, -, rfl⟩ := h
  exact Compositing.isSolid_composite _ _ _ _

/-- The row of a line, the contribution factors that it leaves and the bytes that it consumes. -/
structure ShownLine where
  row : Array Color
  factors : PerPlane UInt8
  consumed : PerPlane Nat

namespace ShownLine

/-- The line of two decoded planes. -/
def ofLines (registers : RegisterFile) (format : ScreenFormat) (lines : PerPlane PlaneLine) :
    ShownLine :=
  let scan := (LineView.ofRegisters registers).scan (lines.map PlaneLine.pixels)
    format.doubleWidth (Decoder.startMatte registers) format.baseWidth
  { row := scan.row
    factors := scan.matte.factors
    consumed := lines.map PlaneLine.consumed }

/-- A black line. -/
def blank (registers : RegisterFile) (format : ScreenFormat) : ShownLine where
  row := Array.replicate format.screenWidth .black
  factors := registers.contributionFactor
  consumed := .both 0

/-- What a line shows, or why it cannot be shown. -/
def ofSources (registers : RegisterFile) (format : ScreenFormat)
    (sources : PerPlane (List UInt8)) : Except Failure ShownLine :=
  if registers.system.displayEnabled then
    match PlaneLine.decode registers .a format.baseWidth sources with
    | .error failure => .error failure
    | .ok lineA =>
      (PlaneLine.decode registers .b format.baseWidth sources).map fun lineB ↦
        ofLines registers format ⟨lineA, lineB⟩
  else .ok (blank registers format)

variable {registers : RegisterFile} {format : ScreenFormat} {sources : PerPlane (List UInt8)}
  {line : ShownLine}

theorem isSolid_of_mem_row (h : ofSources registers format sources = .ok line) {color : Color}
    (hcolor : color ∈ line.row) : color.IsSolid := by
  unfold ofSources at h
  split at h
  · split at h
    · cases h
    · obtain ⟨lineB, -, rfl⟩ := except_map_eq_ok_iff.mp h
      exact LineView.isSolid_of_mem_scan hcolor
  · cases h
    rw [Array.eq_of_mem_replicate hcolor]
    rfl

end ShownLine

namespace Decoder

variable {decoder : Decoder} {sources : PerPlane (List UInt8)} {failure : Failure}
  {line : ShownLine}

/-- The decoder after a line has been shown. -/
def withLine (decoder : Decoder) (line : ShownLine) (planeLines : PerPlane (Array Color))
    (frame backdrop : Grid) : Decoder :=
  { decoder with
    registers := { decoder.registers with contributionFactor := line.factors }
    planeLines
    frame
    backdrop }

/-- A line that cannot be shown leaves the frame alone. -/
theorem FitsFormat.showLine_of_error (h : decoder.FitsFormat)
    (herror : ShownLine.ofSources decoder.registers decoder.format sources = .error failure) :
    ∃ planeLines, decoder.showLine sources = ({ decoder with planeLines }, .error failure) := by
  unfold ShownLine.ofSources at herror
  split at herror
  · rename_i henabled
    rw [Decoder.showLine, if_pos henabled, Decoder.pictureLine]
    split at herror
    · rename_i hlineA
      cases herror
      rw [decodeLines_of_error (decodeLine_eq_error hlineA)]
      exact ⟨decoder.planeLines, rfl⟩
    · rename_i lineA hlineA
      cases hlineB : PlaneLine.decode decoder.registers .b decoder.format.baseWidth sources with
      | ok lineB =>
        rw [hlineB] at herror
        cases herror
      | error cause =>
        rw [hlineB] at herror
        cases herror
        have hfit : lineA.pixels.size ≤ (decoder.planeLines.get .a).size := by
          rw [PlaneLine.size_decode hlineA, h.size_planeLines]
          exact Nat.le_refl _
        have hfailed : (decoder.storeLine .a lineA).decodeLine .b sources =
            (decoder.storeLine .a lineA, .error failure) := decodeLine_eq_error hlineB
        rw [decodeLines_of_ok (decodeLine_eq_ok hlineA hfit), hfailed]
        exact ⟨_, rfl⟩
  · cases herror

/-- A line that can be shown replaces its row of the frame. -/
theorem FitsFormat.showLine_of_ok (h : decoder.FitsFormat)
    (hline : decoder.line < decoder.format.activeLines)
    (hok : ShownLine.ofSources decoder.registers decoder.format sources = .ok line) :
    ∃ planeLines frame backdrop, decoder.frame.setRow? decoder.line line.row = some frame ∧
      decoder.showLine sources =
        (decoder.withLine line planeLines frame backdrop, .ok line.consumed) := by
  unfold ShownLine.ofSources at hok
  split at hok
  · rename_i henabled
    rw [Decoder.showLine, if_pos henabled, Decoder.pictureLine]
    split at hok
    · cases hok
    · rename_i lineA hlineA
      obtain ⟨lineB, hlineB, rfl⟩ := except_map_eq_ok_iff.mp hok
      have hlines : ∀ plane, PlaneLine.decode decoder.registers plane decoder.format.baseWidth
          sources = .ok (PerPlane.get ⟨lineA, lineB⟩ plane) :=
        Plane.forall_iff.mpr ⟨hlineA, hlineB⟩
      have hdecoded := h.decodeLines_eq_ok hlines
      have hfits := h.decodeLines sources
      rw [hdecoded] at hfits
      obtain ⟨frame, hframe, hscan⟩ := hfits.scanLines_eq_ok hline
      rw [hdecoded]
      dsimp only at hscan ⊢
      rw [if_pos hline, hscan]
      exact ⟨_, frame, _, hframe, rfl⟩
  · rename_i hdisabled
    cases hok
    have hblack : (Array.replicate decoder.format.screenWidth Color.black).size =
        decoder.frame.width := by
      rw [Array.size_replicate, h.width_frame]
    obtain ⟨frame, hframe⟩ := Grid.setRow?_eq_some (by rwa [h.height_frame]) hblack
    rw [Decoder.showLine, if_neg hdisabled, Decoder.blankLine, if_pos hline,
      Grid.fillRow?_eq_setRow?, h.width_frame, hframe]
    exact ⟨decoder.planeLines, frame, decoder.backdrop, hframe, rfl⟩

end Decoder

end DualPlaneVideo
