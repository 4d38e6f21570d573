import DualPlaneVideo.Proofs.Decoder.Row

/-!
# Rejecting mosaics

A plane whose image is a mosaic cannot be decoded. A line is rejected for it in the name of the
first such plane, with one exception: direct color never looks at the kind of image of plane B, and
shows a mosaic as if it were none.
-/

namespace DualPlaneVideo

/-- The plane shows an image of its own, and it is a mosaic. -/
def showsMosaic (registers : RegisterFile) (plane : Plane) : Bool :=
  LineView.showsImage registers plane && (registers.parameters.get plane).kind == .mosaic

/-- The first plane that shows a mosaic, plane A before plane B. -/
def mosaicPlane? (registers : RegisterFile) : Option Plane :=
  [Plane.a, Plane.b].find? (showsMosaic registers)

/-- Plane B is set to the mosaic kind of image and to direct color. -/
def HidesMosaic (registers : RegisterFile) : Prop :=
  registers.codingMethod .b = .rgb555 ∧ registers.parameters.b.kind = .mosaic

instance (registers : RegisterFile) : Decidable (HidesMosaic registers) :=
  inferInstanceAs (Decidable (_ ∧ _))

/-- The result of a line is a rejection exactly if a plane shows a mosaic, in the name of the first
such plane, and otherwise the line is decoded. -/
structure RejectsMosaics (registers : RegisterFile) (result : Except Failure (PerPlane Nat)) :
    Prop where
  rejected : ∀ plane, result = .error (.mosaicImage plane) ↔ mosaicPlane? registers = some plane
  decoded : (∃ consumed, result = .ok consumed) ↔ mosaicPlane? registers = none

section Planes

variable {registers : RegisterFile} {plane : Plane} {result : Except Failure (PerPlane Nat)}

theorem mosaicPlane?_of_a (h : showsMosaic registers .a = true) :
    mosaicPlane? registers = some .a := by
  rw [mosaicPlane?, List.find?_cons_of_pos h]

theorem mosaicPlane?_of_b (hA : showsMosaic registers .a = false)
    (hB : showsMosaic registers .b = true) : mosaicPlane? registers = some .b := by
  rw [mosaicPlane?, List.find?_cons_of_neg (by rw [hA]; exact Bool.false_ne_true),
    List.find?_cons_of_pos hB]

theorem mosaicPlane?_eq_none (h : ∀ plane, showsMosaic registers plane = false) :
    mosaicPlane? registers = none := by
  rw [mosaicPlane?, List.find?_eq_none]
  intro plane _
  rw [h plane]
  exact Bool.false_ne_true

theorem showsMosaic_eq_true_iff : showsMosaic registers plane = true ↔
    ¬ (registers.codingMethod plane = .off ∨ plane = .a ∧ registers.codingMethod .b = .rgb555) ∧
      (registers.parameters.get plane).kind = .mosaic := by
  rw [showsMosaic, Bool.and_eq_true, beq_iff_eq, ← Decoder.showsImage_eq_false_iff,
    Bool.not_eq_false]

/-- Unless direct color hides it, a mosaic that a plane shows is one that is decoded. -/
theorem showsMosaic_iff (hhides : ¬ HidesMosaic registers) :
    showsMosaic registers plane = true ↔ PlaneLine.DecodesMosaic registers plane := by
  rw [showsMosaic_eq_true_iff, PlaneLine.DecodesMosaic]
  cases plane with
  | a => tauto
  | b =>
    have hkind : registers.codingMethod .b = .rgb555 →
        (registers.parameters.get .b).kind ≠ .mosaic := fun hdirect hkind ↦
      hhides ⟨hdirect, hkind⟩
    have hne : Plane.b ≠ .a := by decide
    tauto

/-- A plane whose line is decoded shows no mosaic that direct color does not hide. -/
theorem showsMosaic_eq_false {baseWidth : Nat} {sources : PerPlane (List UInt8)} {line : PlaneLine}
    (hhides : ¬ HidesMosaic registers)
    (hline : PlaneLine.decode registers plane baseWidth sources = .ok line) :
    showsMosaic registers plane = false := by
  rw [Bool.eq_false_iff]
  intro hshows
  rw [PlaneLine.decode_of_decodesMosaic ((showsMosaic_iff hhides).mp hshows)] at hline
  cases hline

/-- Beside direct color plane A shows nothing, so it is plane B that shows the hidden mosaic. -/
theorem HidesMosaic.mosaicPlane?_eq (h : HidesMosaic registers) :
    mosaicPlane? registers = some .b := by
  obtain ⟨hdirect, hkind⟩ := h
  apply mosaicPlane?_of_b
  · rw [Bool.eq_false_iff]
    intro hshows
    exact (showsMosaic_eq_true_iff.mp hshows).1 (.inr ⟨rfl, hdirect⟩)
  · refine showsMosaic_eq_true_iff.mpr ⟨?_, hkind⟩
    rw [hdirect]
    rintro (hoff | ⟨hplane, -⟩)
    · cases hoff
    · cases hplane

theorem rejectsMosaics_of_some (hplane : mosaicPlane? registers = some plane)
    (hresult : result = .error (.mosaicImage plane)) : RejectsMosaics registers result where
  rejected other := by
    rw [hresult, hplane]
    simp
  decoded := by
    rw [hresult, hplane]
    simp

theorem rejectsMosaics_of_none {consumed : PerPlane Nat} (hplane : mosaicPlane? registers = none)
    (hresult : result = .ok consumed) : RejectsMosaics registers result where
  rejected other := by
    rw [hresult, hplane]
    simp
  decoded := by
    rw [hresult, hplane]
    simp

end Planes

namespace Decoder

variable {decoder : Decoder} {sources : PerPlane (List UInt8)} {plane : Plane}

/-- The ways in which decoding a line comes out when there is room for it. -/
inductive Decoding (decoder : Decoder) (sources : PerPlane (List UInt8)) :
    Except Failure (PerPlane Nat) → Prop where
  | decoded {lines : PerPlane PlaneLine}
      (hlines : ∀ plane, PlaneLine.decode decoder.registers plane decoder.format.baseWidth sources =
        .ok (lines.get plane)) :
      Decoding decoder sources (.ok (lines.map PlaneLine.consumed))
  | mosaicOnA (hmosaic : PlaneLine.DecodesMosaic decoder.registers .a) :
      Decoding decoder sources (.error (.mosaicImage .a))
  | mosaicOnB {line : PlaneLine}
      (hline : PlaneLine.decode decoder.registers .a decoder.format.baseWidth sources = .ok line)
      (hmosaic : PlaneLine.DecodesMosaic decoder.registers .b) :
      Decoding decoder sources (.error (.mosaicImage .b))
  | exhausted {plane : Plane}
      (hplane : PlaneLine.decode decoder.registers plane decoder.format.baseWidth sources =
        .error .sourceExhausted) :
      Decoding decoder sources (.error .sourceExhausted)

theorem decoding_decodeLines (h : decoder.HasPlaneLines) (sources : PerPlane (List UInt8)) :
    Decoding decoder sources (decoder.decodeLines sources).2 := by
  rw [decodeLines_snd h]
  cases hA : PlaneLine.decode decoder.registers .a decoder.format.baseWidth sources with
  | error failure =>
    rcases PlaneLine.decode_error hA with rfl | ⟨rfl, hmosaic⟩
    · exact .exhausted hA
    · exact .mosaicOnA hmosaic
  | ok lineA =>
    cases hB : PlaneLine.decode decoder.registers .b decoder.format.baseWidth sources with
    | error failure =>
      rcases PlaneLine.decode_error hB with rfl | ⟨rfl, hmosaic⟩
      · exact .exhausted hB
      · exact .mosaicOnB hA hmosaic
    | ok lineB =>
      have hlines : ∀ plane, PlaneLine.decode decoder.registers plane decoder.format.baseWidth
          sources = .ok ((⟨lineA, lineB⟩ : PerPlane PlaneLine).get plane) :=
        Plane.forall_iff.mpr ⟨hA, hB⟩
      exact .decoded hlines

/-- Two bytes for each pixel of a plane line are always enough. -/
theorem decodeLines_ne_exhausted (h : decoder.HasPlaneLines)
    (hlong : ∀ plane, 2 * decoder.format.planeWidth ≤ (sources.get plane).length) :
    (decoder.decodeLines sources).2 ≠ .error .sourceExhausted := by
  have hdecoding := decoding_decodeLines h sources
  generalize (decoder.decodeLines sources).2 = result at hdecoding
  cases hdecoding with
  | decoded hlines => exact nofun
  | mosaicOnA hmosaic => exact nofun
  | mosaicOnB hline hmosaic => exact nofun
  | exhausted hplane => cases (PlaneLine.decode_eq_error_of_long hlong hplane).1

/-- Direct color is decoded whatever the kinds of image are. -/
theorem decodeLines_direct (h : decoder.HasPlaneLines)
    (henough : (decoder.decodeLines sources).2 ≠ .error .sourceExhausted)
    (hdirect : decoder.registers.codingMethod .b = .rgb555) :
    (decoder.decodeLines sources).2 = .ok (.both
      (PlaneLine.decodedWidth decoder.registers.parameters.b.depth decoder.format.baseWidth)) := by
  have hdecoding := decoding_decodeLines h sources
  generalize (decoder.decodeLines sources).2 = result at hdecoding henough ⊢
  cases hdecoding with
  | @decoded lines hlines =>
    have hcount (plane : Plane) : (lines.get plane).consumed =
        PlaneLine.decodedWidth decoder.registers.parameters.b.depth decoder.format.baseWidth := by
      have hline := hlines plane
      rw [PlaneLine.decode_direct hdirect] at hline
      exact (PlaneLine.decodeCombined_eq_ok hline).1
    exact congrArg Except.ok (PerPlane.ext (hcount .a) (hcount .b))
  | mosaicOnA hmosaic => exact absurd hdirect hmosaic.1
  | mosaicOnB hline hmosaic => exact absurd hdirect hmosaic.1
  | exhausted hplane => exact absurd rfl henough

/-- A mosaic that direct color does not hide is rejected, and nothing else is. -/
theorem rejectsMosaics_decodeLines (h : decoder.HasPlaneLines)
    (henough : (decoder.decodeLines sources).2 ≠ .error .sourceExhausted)
    (hhides : ¬ HidesMosaic decoder.registers) :
    RejectsMosaics decoder.registers (decoder.decodeLines sources).2 := by
  have hdecoding := decoding_decodeLines h sources
  generalize (decoder.decodeLines sources).2 = result at hdecoding henough ⊢
  cases hdecoding with
  | decoded hlines =>
    apply rejectsMosaics_of_none _ rfl
    exact mosaicPlane?_eq_none fun plane ↦ showsMosaic_eq_false hhides (hlines plane)
  | mosaicOnA hmosaic =>
    apply rejectsMosaics_of_some _ rfl
    exact mosaicPlane?_of_a ((showsMosaic_iff hhides).mpr hmosaic)
  | mosaicOnB hline hmosaic =>
    apply rejectsMosaics_of_some _ rfl
    exact mosaicPlane?_of_b (showsMosaic_eq_false hhides hline)
      ((showsMosaic_iff hhides).mpr hmosaic)
  | exhausted hplane => exact absurd rfl henough

/-- As long as the sources do not run out, which two bytes for each pixel of a plane line prevent,
mosaics are rejected for every plane that shows one, the first of them being named, unless direct
color hides one. Direct color takes its bytes and is shown, whatever the kinds of image are. -/
theorem decodeLines_rejects_mosaics_iff (h : decoder.HasPlaneLines) :
    ((∀ plane, 2 * decoder.format.planeWidth ≤ (sources.get plane).length) →
      (decoder.decodeLines sources).2 ≠ .error .sourceExhausted) ∧
    ((decoder.decodeLines sources).2 ≠ .error .sourceExhausted →
      (RejectsMosaics decoder.registers (decoder.decodeLines sources).2 ↔
        ¬ HidesMosaic decoder.registers) ∧
      (decoder.registers.codingMethod .b = .rgb555 →
        (decoder.decodeLines sources).2 = .ok (.both (PlaneLine.decodedWidth
          decoder.registers.parameters.b.depth decoder.format.baseWidth)))) := by
  refine ⟨decodeLines_ne_exhausted h, fun henough ↦ ⟨⟨?_, ?_⟩, decodeLines_direct h henough⟩⟩
  · intro hrejects hhides
    have hok := decodeLines_direct h henough hhides.1
    have hnone := hrejects.decoded.mp ⟨_, hok⟩
    rw [hhides.mosaicPlane?_eq] at hnone
    cases hnone
  · exact rejectsMosaics_decodeLines h henough

/-- Three positions of mosaics on both planes, in the coding methods of the register. -/
def mosaics (imageCoding : Word) : Decoder :=
  { initial default with
    registers :=
      { RegisterFile.initial with
        imageCoding
        parameters := .both { DisplayParameters.initial with kind := .mosaic } }
    format := { ScreenFormat.initial with baseWidth := 3 }
    planeLines := .both (Array.replicate 6 Color.transparent) }

/-- Delta coding on both planes, on plane B alone, and direct color. -/
theorem decodeLines_rejects_mosaics_iff_three_positions :
    let sources := PerPlane.both (List.replicate 12 0)
    ((mosaics 0x505).decodeLines sources).2 = .error (.mosaicImage .a) ∧
      ((mosaics 0x500).decodeLines sources).2 = .error (.mosaicImage .b) ∧
      ((mosaics 0x100).decodeLines sources).2 = .ok (.both 3) ∧
      ¬ RejectsMosaics (mosaics 0x100).registers ((mosaics 0x100).decodeLines sources).2 := by
  intro sources
  have hlong (imageCoding : Word) (plane : Plane) :
      2 * (mosaics imageCoding).format.planeWidth ≤ (sources.get plane).length := by
    cases plane <;> exact Nat.le_refl 12
  have hbuffers (imageCoding : Word) : (mosaics imageCoding).HasPlaneLines := by
    intro plane
    cases plane <;> exact Nat.le_refl 6
  have hresult (imageCoding : Word) :=
    (decodeLines_rejects_mosaics_iff (hbuffers imageCoding)).2
      ((decodeLines_rejects_mosaics_iff (hbuffers imageCoding)).1 (hlong imageCoding))
  obtain ⟨hboth, -⟩ := hresult 0x505
  obtain ⟨hB, -⟩ := hresult 0x500
  obtain ⟨hhidden, hdirect⟩ := hresult 0x100
  refine ⟨?_, ?_, hdirect (by decide), fun hrejects ↦ hhidden.mp hrejects (by decide)⟩
  · exact ((hboth.mpr (by decide)).rejected .a).mpr (by decide)
  · exact ((hB.mpr (by decide)).rejected .b).mpr (by decide)

/-- The initial program of channel B selects the mosaic kind of image. -/
def mosaicOnB : Memory := fun address ↦
  match address.toNat with
  | 0x80400 => 0x70
  | 0x80403 => 0x03
  | _ => 0

/-- The display is on, plane B has direct color, and its initial program has run. -/
def directMosaic : Decoder :=
  let coded := (initial default).write (.register 0xC0 0x100)
  (((coded.write (.system 0x12 0x8000)).write (.system 0x02 0x0200)).enterFrame mosaicOnB).decoder

theorem reachable_directMosaic : directMosaic.Reachable :=
  ((((Reachable.initial default).write (.register 0xC0 0x100)).write (.system 0x12 0x8000)).write
    (.system 0x02 0x0200)).enterFrame mosaicOnB

/-- A mosaic on plane B is decoded as if it were none when the coding is direct color. -/
theorem decodeLines_accepts_hidden_mosaic :
    let sources := PerPlane.both (List.replicate 1440 0)
    directMosaic.Reachable ∧
      (∀ plane, 2 * directMosaic.format.planeWidth ≤ (sources.get plane).length) ∧
      mosaicPlane? directMosaic.registers = some .b ∧
      (directMosaic.decodeLines sources).2 = .ok (.both 360) := by
  intro sources
  have hbuffers := reachable_directMosaic.fitsFormat.hasPlaneLines
  have hformat : directMosaic.format = ScreenFormat.initial := by decide +kernel
  have hlong (plane : Plane) :
      2 * directMosaic.format.planeWidth ≤ (sources.get plane).length := by
    rw [hformat]
    cases plane <;> exact Nat.le_of_eq List.length_replicate.symm
  refine ⟨reachable_directMosaic, hlong, by decide +kernel, ?_⟩
  rw [decodeLines_direct hbuffers (decodeLines_ne_exhausted hbuffers hlong) (by decide +kernel),
    hformat]
  decide +kernel

end Decoder

end DualPlaneVideo
