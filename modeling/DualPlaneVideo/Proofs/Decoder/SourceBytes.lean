import DualPlaneVideo.Proofs.Decoder.LineDecoding

/-!
# The source bytes of a line

A line takes no more bytes from a source than there are. In the codings of fixed length the
resolution alone tells how many it takes.
-/

namespace DualPlaneVideo

theorem consumed_decodeIndexed {palette : Palette} {view : PaletteView} {nibbles : Bool}
    {width : Nat} {source : List UInt8} {line : DecodedLine}
    (h : decodeIndexed palette view nibbles width source = .ok line) :
    line.consumed = codeBytes nibbles width := by
  obtain ⟨bytes, -, rfl⟩ := except_map_eq_ok_iff.mp h
  rfl

theorem consumed_decodeDeltaYuv {seed : Yuv} {width : Nat} {source : List UInt8}
    {line : DecodedLine} (h : decodeDeltaYuv seed width source = .ok line) :
    line.consumed = 2 * pairCount width := by
  obtain ⟨bytes, -, rfl⟩ := except_map_eq_ok_iff.mp h
  rfl

namespace PlaneLine

variable {registers : RegisterFile} {plane : Plane} {baseWidth length : Nat}
  {sources : PerPlane (List UInt8)} {line : PlaneLine}

/-- The source bytes of a line in the codings of fixed length. Direct color takes as many from either
source; run-length and mosaic images, and planes that are off, have no fixed length. -/
def fixedLength? (registers : RegisterFile) (plane : Plane) (baseWidth : Nat) : Option Nat :=
  if registers.codingMethod .b = .rgb555 then
    some (decodedWidth registers.parameters.b.depth baseWidth)
  else
    let parameters := registers.parameters.get plane
    let width := decodedWidth parameters.depth baseWidth
    match parameters.kind, registers.codingMethod plane with
    | .normal, .clut8 => some width
    | .normal, .clut7 => some width
    | .normal, .clut77 => some width
    | .normal, .clut4 => some (width / 2)
    | .normal, .dyuv => some width
    | _, _ => none

/-- Pixels of an even line come in pairs. -/
theorem pairCount_decodedWidth (depth : PixelDepth) (heven : baseWidth % 2 = 0) :
    pairCount (decodedWidth depth baseWidth) = decodedWidth depth baseWidth / 2 ∧
      2 * pairCount (decodedWidth depth baseWidth) = decodedWidth depth baseWidth := by
  have hwidth : decodedWidth depth baseWidth % 2 = 0 := by
    unfold decodedWidth
    split <;> omega
  unfold pairCount
  omega

theorem consumed_of_fixedLength (heven : baseWidth % 2 = 0)
    (hlength : fixedLength? registers plane baseWidth = some length)
    (hline : decode registers plane baseWidth sources = .ok line) : line.consumed = length := by
  unfold fixedLength? at hlength
  split at hlength
  · rename_i hdirect
    rw [decode_direct hdirect] at hline
    rw [(decodeCombined_eq_ok hline).1]
    exact Option.some.inj hlength
  · rename_i hdirect
    have hpairs := pairCount_decodedWidth (registers.parameters.get plane).depth heven
    by_cases hoff : registers.codingMethod plane = .off
    · cases hkind : (registers.parameters.get plane).kind <;> simp [hkind, hoff] at hlength
    · rw [decode_own hdirect hoff] at hline
      obtain ⟨decoded, hdecoded, rfl⟩ := except_map_eq_ok_iff.mp hline
      unfold decodeOwn at hdecoded
      dsimp only at hdecoded hlength
      split at hlength
      all_goals
        rename_i hkind hmethod
        cases hlength
      all_goals simp only [hkind, hmethod] at hdecoded
      · exact consumed_decodeIndexed hdecoded
      · exact consumed_decodeIndexed hdecoded
      · exact consumed_decodeIndexed hdecoded
      · exact (consumed_decodeIndexed hdecoded).trans hpairs.1
      · exact (consumed_decodeDeltaYuv hdecoded).trans hpairs.2

end PlaneLine

namespace Decoder

variable {decoder after : Decoder} {memory : Memory} {sources : PerPlane (List UInt8)}
  {consumed : PerPlane Nat} {report : LineReport} {plane : Plane} {length : Nat}

/-- While the display is enabled, a line takes what the lines of the planes take. -/
theorem pictureLine_eq_ok (h : decoder.pictureLine sources = (after, .ok consumed)) :
    ∃ lines : PerPlane PlaneLine,
      (∀ plane, PlaneLine.decode decoder.registers plane decoder.format.baseWidth sources =
        .ok (lines.get plane)) ∧
      lines.map PlaneLine.consumed = consumed := by
  unfold pictureLine at h
  rcases hrun : decoder.decodeLines sources with ⟨decoded, failure | counts⟩
  · rw [hrun] at h
    cases h
  · obtain ⟨lines, hlines, -, -, rfl⟩ := decodeLines_eq_ok_iff.mp hrun
    refine ⟨lines, hlines, ?_⟩
    simp only [hrun] at h
    split at h
    · split at h
      · cases h
      · cases h
        rfl
    · cases h
      rfl

theorem blankLine_consumed (h : decoder.blankLine = (after, .ok consumed)) :
    consumed = .both 0 := by
  unfold blankLine at h
  split at h
  · split at h
    · cases h
    · cases h
      rfl
  · cases h
    rfl

theorem advanceLine_eq_ok (h : (decoder.advanceLine memory sources).result = .ok report) :
    ∃ shown, decoder.showLine sources = (shown, .ok report.consumed) := by
  unfold advanceLine at h
  rcases hshow : decoder.showLine sources with ⟨shown, failure | counts⟩
  · rw [hshow] at h
    cases h
  · simp only [hshow] at h
    split at h
    · cases h
    · cases h
      exact ⟨shown, rfl⟩

theorem consumed_le_length (h : (decoder.advanceLine memory sources).result = .ok report)
    (plane : Plane) : report.consumed.get plane ≤ (sources.get plane).length := by
  obtain ⟨shown, hshow⟩ := advanceLine_eq_ok h
  unfold showLine at hshow
  split at hshow
  · obtain ⟨lines, hlines, hconsumed⟩ := pictureLine_eq_ok hshow
    rw [← hconsumed, PerPlane.get_map]
    exact PlaneLine.consumed_le_length hlines plane
  · rw [blankLine_consumed hshow, PerPlane.get_both]
    exact Nat.zero_le _

theorem consumed_of_fixedLength (heven : decoder.format.baseWidth % 2 = 0)
    (henabled : decoder.registers.system.displayEnabled = true)
    (hlength : PlaneLine.fixedLength? decoder.registers plane decoder.format.baseWidth =
      some length)
    (h : (decoder.advanceLine memory sources).result = .ok report) :
    report.consumed.get plane = length := by
  obtain ⟨shown, hshow⟩ := advanceLine_eq_ok h
  rw [showLine, if_pos henabled] at hshow
  obtain ⟨lines, hlines, hconsumed⟩ := pictureLine_eq_ok hshow
  rw [← hconsumed, PerPlane.get_map]
  exact PlaneLine.consumed_of_fixedLength heven hlength (hlines plane)

end Decoder

end DualPlaneVideo
