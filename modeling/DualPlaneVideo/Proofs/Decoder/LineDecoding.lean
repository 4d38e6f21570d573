import DualPlaneVideo.Decoder.Frame
import DualPlaneVideo.Proofs.Grid
import DualPlaneVideo.Proofs.Line.PlaneLine

/-!
# Decoding the lines of a frame

Decoding a line puts both planes' pixels into the line buffers and changes nothing else. The
reported counts are exactly the source bytes that the line depends on.
-/

namespace DualPlaneVideo

namespace Decoder

variable {decoder after : Decoder} {plane : Plane} {sources : PerPlane (List UInt8)}

/-- The decoder with the lines in its buffers. -/
def withLines (decoder : Decoder) (lines : PerPlane PlaneLine) : Decoder :=
  (decoder.storeLine .a lines.a).storeLine .b lines.b

theorem decodeLine_eq_error {failure : Failure}
    (h : PlaneLine.decode decoder.registers plane decoder.format.baseWidth sources =
      .error failure) :
    decoder.decodeLine plane sources = (decoder, .error failure) := by
  simp only [decodeLine, h]

theorem decodeLine_eq_ok {line : PlaneLine}
    (h : PlaneLine.decode decoder.registers plane decoder.format.baseWidth sources = .ok line)
    (hfit : line.pixels.size ≤ (decoder.planeLines.get plane).size) :
    decoder.decodeLine plane sources = (decoder.storeLine plane line, .ok line.consumed) := by
  simp only [decodeLine, h, hfit, if_true]

theorem decodeLine_eq_ok_iff {consumed : Nat} :
    decoder.decodeLine plane sources = (after, .ok consumed) ↔
      ∃ line, PlaneLine.decode decoder.registers plane decoder.format.baseWidth sources =
          .ok line ∧
        line.pixels.size ≤ (decoder.planeLines.get plane).size ∧
        decoder.storeLine plane line = after ∧ line.consumed = consumed := by
  cases hline : PlaneLine.decode decoder.registers plane decoder.format.baseWidth sources with
  | error failure => simp [decodeLine_eq_error hline]
  | ok line =>
    by_cases hfit : line.pixels.size ≤ (decoder.planeLines.get plane).size
    · simp [decodeLine_eq_ok hline hfit, hfit]
    · simp [decodeLine, hline, hfit]

/-- Plane A alone decides whether plane B is decoded. -/
theorem decodeLines_of_error {failure : Failure}
    (h : decoder.decodeLine .a sources = (after, .error failure)) :
    decoder.decodeLines sources = (after, .error failure) := by
  simp only [decodeLines, h]

theorem decodeLines_of_ok {consumedA : Nat}
    (h : decoder.decodeLine .a sources = (after, .ok consumedA)) :
    decoder.decodeLines sources =
      ((after.decodeLine .b sources).1,
        (after.decodeLine .b sources).2.map fun consumedB ↦ ⟨consumedA, consumedB⟩) := by
  simp only [decodeLines, h]

theorem decodeLines_eq_ok_iff {consumed : PerPlane Nat} :
    decoder.decodeLines sources = (after, .ok consumed) ↔
      ∃ lines : PerPlane PlaneLine,
        (∀ plane, PlaneLine.decode decoder.registers plane decoder.format.baseWidth sources =
          .ok (lines.get plane)) ∧
        (∀ plane, (lines.get plane).pixels.size ≤ (decoder.planeLines.get plane).size) ∧
        decoder.withLines lines = after ∧ lines.map PlaneLine.consumed = consumed := by
  constructor
  · intro h
    rcases hA : decoder.decodeLine .a sources with ⟨afterA, failure | consumedA⟩
    · rw [decodeLines_of_error hA] at h
      cases h
    · rw [decodeLines_of_ok hA] at h
      rcases hB : afterA.decodeLine .b sources with ⟨afterB, failure | consumedB⟩
      · rw [hB] at h
        cases h
      · rw [hB] at h
        cases h
        obtain ⟨lineA, hlineA, hfitA, rfl, rfl⟩ := decodeLine_eq_ok_iff.mp hA
        obtain ⟨lineB, hlineB, hfitB, rfl, rfl⟩ := decodeLine_eq_ok_iff.mp hB
        exact ⟨⟨lineA, lineB⟩, Plane.forall_iff.mpr ⟨hlineA, hlineB⟩,
          Plane.forall_iff.mpr ⟨hfitA, hfitB⟩, rfl, rfl⟩
  · rintro ⟨lines, hlines, hfit, rfl, rfl⟩
    have hA : decoder.decodeLine .a sources =
        (decoder.storeLine .a lines.a, .ok lines.a.consumed) :=
      decodeLine_eq_ok (hlines .a) (hfit .a)
    have hB : (decoder.storeLine .a lines.a).decodeLine .b sources =
        (decoder.withLines lines, .ok lines.b.consumed) :=
      decodeLine_eq_ok (hlines .b) (hfit .b)
    rw [decodeLines_of_ok hA, hB]
    rfl

/-- A decoded line stands at the front of its buffer. -/
theorem getElem?_withLines (decoder : Decoder) {lines : PerPlane PlaneLine}
    (hfit : (lines.get plane).pixels.size ≤ (decoder.planeLines.get plane).size) {x : Nat}
    (hx : x < (lines.get plane).pixels.size) :
    ((decoder.withLines lines).planeLines.get plane)[x]? = (lines.get plane).pixels[x]? := by
  have hbuffer : (decoder.withLines lines).planeLines.get plane =
      Grid.overwrite (decoder.planeLines.get plane) 0 (lines.get plane).pixels := by
    cases plane <;> rfl
  rw [hbuffer, Grid.getElem?_overwrite, if_pos ⟨Nat.zero_le x, by omega, by omega⟩, Nat.sub_zero]

/-- With room for both lines only the lines themselves can fail, plane A before plane B. -/
theorem decodeLines_snd (h : decoder.HasPlaneLines) :
    (decoder.decodeLines sources).2 =
      (PlaneLine.decode decoder.registers .a decoder.format.baseWidth sources).bind fun lineA ↦
        (PlaneLine.decode decoder.registers .b decoder.format.baseWidth sources).map fun lineB ↦
          ⟨lineA.consumed, lineB.consumed⟩ := by
  have hfit {plane : Plane} {line : PlaneLine}
      (hline : PlaneLine.decode decoder.registers plane decoder.format.baseWidth sources =
        .ok line) : line.pixels.size ≤ (decoder.planeLines.get plane).size := by
    rw [PlaneLine.size_decode hline]
    exact h plane
  cases hA : PlaneLine.decode decoder.registers .a decoder.format.baseWidth sources with
  | error failure => rw [decodeLines_of_error (decodeLine_eq_error hA)]; rfl
  | ok lineA =>
    rw [decodeLines_of_ok (decodeLine_eq_ok hA (hfit hA))]
    cases hB : PlaneLine.decode decoder.registers .b decoder.format.baseWidth sources with
    | error failure =>
      have hstored : (decoder.storeLine .a lineA).decodeLine .b sources =
          (decoder.storeLine .a lineA, .error failure) := decodeLine_eq_error hB
      rw [hstored]
      rfl
    | ok lineB =>
      have hstored : (decoder.storeLine .a lineA).decodeLine .b sources =
          ((decoder.storeLine .a lineA).storeLine .b lineB, .ok lineB.consumed) :=
        decodeLine_eq_ok hB (hfit hB)
      rw [hstored]
      rfl

/-- Decoded lines fill buffers of their width to the last pixel. -/
theorem withLines_eq {lines : PerPlane PlaneLine}
    (hsize : ∀ plane, (decoder.planeLines.get plane).size = 2 * decoder.format.baseWidth)
    (hlines : ∀ plane, PlaneLine.decode decoder.registers plane decoder.format.baseWidth sources =
      .ok (lines.get plane)) :
    decoder.withLines lines = { decoder with planeLines := lines.map PlaneLine.pixels } := by
  have hbuffer (plane : Plane) :
      Grid.overwrite (decoder.planeLines.get plane) 0 (lines.get plane).pixels =
        (lines.get plane).pixels := by
    apply Grid.overwrite_of_size_eq
    rw [PlaneLine.size_decode (hlines plane), hsize plane]
  have hbuffers : (decoder.withLines lines).planeLines = lines.map PlaneLine.pixels := by
    apply PerPlane.ext
    · exact hbuffer .a
    · exact hbuffer .b
  rw [← hbuffers]
  rfl

theorem decodeLines_eq_ok {lines : PerPlane PlaneLine}
    (hsize : ∀ plane, (decoder.planeLines.get plane).size = 2 * decoder.format.baseWidth)
    (hlines : ∀ plane, PlaneLine.decode decoder.registers plane decoder.format.baseWidth sources =
      .ok (lines.get plane)) :
    decoder.decodeLines sources =
      ({ decoder with planeLines := lines.map PlaneLine.pixels },
        .ok (lines.map PlaneLine.consumed)) := by
  have hfit (plane : Plane) :
      (lines.get plane).pixels.size ≤ (decoder.planeLines.get plane).size :=
    Nat.le_of_eq ((PlaneLine.size_decode (hlines plane)).trans (hsize plane).symm)
  exact decodeLines_eq_ok_iff.mpr ⟨lines, hlines, hfit, withLines_eq hsize hlines, rfl⟩

/-- A plane whose source is too short fails, whichever plane comes first. -/
theorem decodeLines_eq_exhausted {lines : PerPlane PlaneLine}
    (hfit : ∀ plane, (lines.get plane).pixels.size ≤ (decoder.planeLines.get plane).size)
    (hcases : ∀ plane,
      PlaneLine.decode decoder.registers plane decoder.format.baseWidth sources =
          .error .sourceExhausted ∨
        PlaneLine.decode decoder.registers plane decoder.format.baseWidth sources =
          .ok (lines.get plane))
    (hshort : PlaneLine.decode decoder.registers plane decoder.format.baseWidth sources =
      .error .sourceExhausted) :
    (decoder.decodeLines sources).2 = .error .sourceExhausted := by
  rcases hcases .a with hA | hA
  · rw [decodeLines_of_error (decodeLine_eq_error hA)]
  · have hshortB : PlaneLine.decode decoder.registers .b decoder.format.baseWidth sources =
        .error .sourceExhausted := by
      cases plane with
      | a =>
        rw [hA] at hshort
        cases hshort
      | b => exact hshort
    have hB : (decoder.storeLine .a (lines.get .a)).decodeLine .b sources =
        (decoder.storeLine .a (lines.get .a), .error .sourceExhausted) :=
      decodeLine_eq_error hshortB
    rw [decodeLines_of_ok (decodeLine_eq_ok hA (hfit .a)), hB]
    rfl

/-- Sources that agree on the counted bytes give the same lines and the same counts, and a source
that is cut anywhere before its count is too short for the line. -/
theorem decodeLines_consumes_exactly {consumed : PerPlane Nat}
    (h : decoder.decodeLines sources = (after, .ok consumed)) :
    (∀ others : PerPlane (List UInt8),
      (∀ plane, (others.get plane).take (consumed.get plane) =
        (sources.get plane).take (consumed.get plane)) →
      decoder.decodeLines others = (after, .ok consumed)) ∧
    ∀ plane cut, cut < consumed.get plane →
      (decoder.decodeLines (sources.set plane ((sources.get plane).take cut))).2 =
        .error .sourceExhausted := by
  obtain ⟨lines, hlines, hfit, rfl, rfl⟩ := decodeLines_eq_ok_iff.mp h
  simp only [PerPlane.get_map]
  constructor
  · intro others agree
    have hothers := PlaneLine.decode_eq_of_take_eq hlines agree
    exact decodeLines_eq_ok_iff.mpr ⟨lines, hothers, hfit, rfl, rfl⟩
  · intro plane cut hcut
    exact decodeLines_eq_exhausted hfit (PlaneLine.decode_cut_cases hlines hcut)
      (PlaneLine.decode_cut_self hlines hcut)

/-- Three positions, with runs of CLUT7 on plane A and delta YUV on plane B. -/
def threePositions : Decoder :=
  { initial default with
    registers :=
      { RegisterFile.initial with
        imageCoding := 0x503
        parameters := ⟨{ DisplayParameters.initial with kind := .runLength }, .initial⟩ }
    format := { ScreenFormat.initial with baseWidth := 3 }
    planeLines := .both (Array.replicate 6 Color.transparent) }

theorem decodeLines_consumes_exactly_three_positions :
    (threePositions.decodeLines ⟨[0x85, 2, 7, 9], [1, 2, 3, 4, 5]⟩).2 = .ok ⟨3, 4⟩ ∧
      (threePositions.decodeLines ⟨[0x85, 2, 7, 0], [1, 2, 3, 4, 6]⟩).2 = .ok ⟨3, 4⟩ ∧
      (threePositions.decodeLines ⟨[0x85, 2], [1, 2, 3, 4, 5]⟩).2 =
        .error .sourceExhausted := by
  have h : threePositions.decodeLines ⟨[0x85, 2, 7, 9], [1, 2, 3, 4, 5]⟩ =
      ((threePositions.decodeLines ⟨[0x85, 2, 7, 9], [1, 2, 3, 4, 5]⟩).1, .ok ⟨3, 4⟩) := rfl
  obtain ⟨hsame, hcut⟩ := decodeLines_consumes_exactly h
  refine ⟨congrArg Prod.snd h, ?_, ?_⟩
  · rw [hsame ⟨[0x85, 2, 7, 0], [1, 2, 3, 4, 6]⟩ (by decide)]
  · exact hcut .a 2 (by decide)

/-! ## Line buffers -/

/-- A line that fits its buffer is never written past the end of it. -/
theorem decodeLines_snd_ne_outside (h : decoder.HasPlaneLines) :
    (decoder.decodeLines sources).2 ≠ .error .lineOutsideBuffer := by
  have hline (plane : Plane) :
      PlaneLine.decode decoder.registers plane decoder.format.baseWidth sources ≠
        .error .lineOutsideBuffer := by
    intro hdecode
    rcases PlaneLine.decode_error hdecode with hfailure | ⟨hfailure, -⟩
    · cases hfailure
    · cases hfailure
  rw [decodeLines_snd h]
  cases hA : PlaneLine.decode decoder.registers .a decoder.format.baseWidth sources with
  | error failure =>
    rintro ⟨⟩
    exact hline .a hA
  | ok lineA =>
    cases hB : PlaneLine.decode decoder.registers .b decoder.format.baseWidth sources with
    | error failure =>
      rintro ⟨⟩
      exact hline .b hB
    | ok lineB =>
      intro hsome
      cases hsome

/-- Buffers of the line's width are replaced from the first pixel to the last, and nothing is
written past them. What they held before shows in neither line. -/
theorem decodeLines_replaces_buffers (decoder : Decoder) (sources : PerPlane (List UInt8))
    (hsize : ∀ plane, (decoder.planeLines.get plane).size = 2 * decoder.format.baseWidth) :
    (decoder.decodeLines sources).2 ≠ .error .lineOutsideBuffer ∧
    ∀ after consumed, decoder.decodeLines sources = (after, .ok consumed) →
      (∃ lines : PerPlane PlaneLine,
        (∀ plane, PlaneLine.decode decoder.registers plane decoder.format.baseWidth sources =
            .ok (lines.get plane) ∧
          (lines.get plane).pixels.size = 2 * decoder.format.baseWidth) ∧
        after = { decoder with planeLines := lines.map PlaneLine.pixels }) ∧
      ∀ buffers : PerPlane (Array Color),
        (∀ plane, (buffers.get plane).size = 2 * decoder.format.baseWidth) →
          decodeLines { decoder with planeLines := buffers } sources = (after, .ok consumed) := by
  constructor
  · exact decodeLines_snd_ne_outside fun plane ↦ Nat.le_of_eq (hsize plane).symm
  · intro after consumed h
    obtain ⟨lines, hlines, -, hafter, rfl⟩ := decodeLines_eq_ok_iff.mp h
    rw [withLines_eq hsize hlines] at hafter
    subst hafter
    constructor
    · exact ⟨lines, fun plane ↦ ⟨hlines plane, PlaneLine.size_decode (hlines plane)⟩, rfl⟩
    · intro buffers hbuffers
      exact decodeLines_eq_ok hbuffers hlines

/-- An odd width, over buffers that are not blank. -/
theorem decodeLines_replaces_buffers_three_positions :
    decodeLines { threePositions with planeLines := .both (Array.replicate 6 .black) }
        ⟨[0x85, 2, 7], [1, 2, 3, 4]⟩ =
      threePositions.decodeLines ⟨[0x85, 2, 7], [1, 2, 3, 4]⟩ := by
  have hsize (color : Color) (plane : Plane) :
      ((PerPlane.both (Array.replicate 6 color)).get plane).size =
        2 * threePositions.format.baseWidth := by
    cases plane <;> exact Array.size_replicate
  have h : threePositions.decodeLines ⟨[0x85, 2, 7], [1, 2, 3, 4]⟩ =
      ((threePositions.decodeLines ⟨[0x85, 2, 7], [1, 2, 3, 4]⟩).1, .ok ⟨3, 4⟩) := rfl
  obtain ⟨-, hreplaced⟩ := decodeLines_replaces_buffers threePositions
    ⟨[0x85, 2, 7], [1, 2, 3, 4]⟩ (hsize .transparent)
  exact ((hreplaced _ _ h).2 _ (hsize .black)).trans h.symm

end Decoder

end DualPlaneVideo
