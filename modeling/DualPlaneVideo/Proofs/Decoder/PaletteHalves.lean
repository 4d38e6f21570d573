import DualPlaneVideo.Proofs.ControlProgram.Isolation
import DualPlaneVideo.Proofs.Decoder.HiddenPlane

/-!
# Palette halves

Every code of a palette image, in whatever form it comes, selects an entry of the plane's own view
of the palette. A plane's line is settled by these entries, together with the other registers and
the sources. Plane B always looks at the upper half; plane A looks at the lower half, unless its
coding is CLUT8, which sees the whole palette, or CLUT7+7 with the high bank, which sees the upper
half instead.

Which entries a palette holds never decides how many bytes a line takes or whether it fails.
-/

namespace DualPlaneVideo

/-- The entries that the codes of a view select. -/
def PaletteView.Selects : PaletteView → Nat → Prop
  | whole, index => index < 256
  | lowerHalf, index => index < 128
  | upperHalf, index => 128 ≤ index ∧ index < 256

/-- The two palettes have the same color in each of the entries. -/
def Palette.AgreesOn (entries : Nat → Prop) (palette other : Palette) : Prop :=
  ∀ index, entries index → other.read index = palette.read index

namespace PaletteView

variable {view : PaletteView} {palette other : Palette}

/-- A code of seven bits stays in its half, and eight bits stay in the table. -/
theorem selects_index (view : PaletteView) (code : UInt8) : view.Selects (view.index code) := by
  have hseven : bitField code.toNat 0 7 < 128 := bitField_lt _ _ _
  cases view with
  | whole => exact code.toNat_lt
  | lowerHalf => exact hseven
  | upperHalf => exact ⟨Nat.le_add_right _ _, Nat.add_lt_add_left hseven 128⟩

theorem color_eq (h : palette.AgreesOn view.Selects other) : view.color other = view.color palette := by
  funext code
  exact congrArg Color.ofRgb24 (h _ (view.selects_index code))

end PaletteView

namespace RegisterFile

/-- How the pixel codes of a plane select palette entries under the registers. -/
def paletteView (registers : RegisterFile) (plane : Plane) : PaletteView :=
  .ofMethod (registers.codingMethod plane) plane (ImageCoding.highBank registers.imageCoding)

variable {registers : RegisterFile}

/-- Plane B has no coding that selects from the lower half. -/
theorem paletteView_b (registers : RegisterFile) : registers.paletteView .b = .upperHalf := by
  simp only [paletteView, codingMethod, ImageCoding.method]
  unfold ImageCoding.methodOfCodeB
  split <;> rfl

theorem paletteView_a (hwide : registers.codingMethod .a ≠ .clut8)
    (hbank : ¬ (registers.codingMethod .a = .clut77 ∧
      ImageCoding.highBank registers.imageCoding = true)) :
    registers.paletteView .a = .lowerHalf := by
  unfold paletteView
  cases hmethod : registers.codingMethod .a with
  | clut8 => exact absurd hmethod hwide
  | clut77 =>
    have hlow : ImageCoding.highBank registers.imageCoding = false :=
      Bool.eq_false_iff.mpr fun hhigh ↦ hbank ⟨hmethod, hhigh⟩
    rw [hlow]
    rfl
  | off => rfl
  | clut7 => rfl
  | clut4 => rfl
  | dyuv => rfl
  | rgb555 => rfl

theorem paletteView_a_of_highBank (hmethod : registers.codingMethod .a = .clut77)
    (hhigh : ImageCoding.highBank registers.imageCoding = true) :
    registers.paletteView .a = .upperHalf := by
  rw [paletteView, hmethod, hhigh]
  rfl

end RegisterFile

/-! ## Lines under another palette -/

section Lines

variable {view : PaletteView} {palette other : Palette} {width : Nat} {source : List UInt8}

theorem decodeIndexed_of_agreesOn (h : palette.AgreesOn view.Selects other) (nibbles : Bool) :
    decodeIndexed other view nibbles width source =
      decodeIndexed palette view nibbles width source := by
  rw [decodeIndexed, decodeIndexed, PaletteView.color_eq h]

theorem decodeRunLength_of_agreesOn (h : palette.AgreesOn view.Selects other) (form : RunForm) :
    decodeRunLength other view form width source =
      decodeRunLength palette view form width source := by
  rw [decodeRunLength, decodeRunLength, PaletteView.color_eq h]

theorem consumed_decodeIndexed_eq (palette other : Palette) (nibbles : Bool) :
    (decodeIndexed other view nibbles width source).map DecodedLine.consumed =
      (decodeIndexed palette view nibbles width source).map DecodedLine.consumed := by
  unfold decodeIndexed
  cases takeBytes (codeBytes nibbles width) source <;> simp only [Except.map]

theorem consumed_decodeRunLength_eq (palette other : Palette) (form : RunForm) :
    (decodeRunLength other view form width source).map DecodedLine.consumed =
      (decodeRunLength palette view form width source).map DecodedLine.consumed := by
  unfold decodeRunLength
  cases form.lineCodes width source <;> simp only [Except.map]

end Lines

namespace RegisterFile

/-- The same registers with another palette. -/
def withPalette (registers : RegisterFile) (palette : Palette) : RegisterFile :=
  { registers with palette }

end RegisterFile

namespace PlaneLine

variable {registers : RegisterFile} {palette : Palette} {plane : Plane}

theorem decodeOwn_withPalette
    (h : registers.palette.AgreesOn (registers.paletteView plane).Selects palette)
    (baseWidth : Nat) (source : List UInt8) :
    decodeOwn (registers.withPalette palette) plane baseWidth source =
      decodeOwn registers plane baseWidth source := by
  unfold decodeOwn
  dsimp only [RegisterFile.withPalette, RegisterFile.codingMethod]
  split
  · rfl
  · exact decodeRunLength_of_agreesOn h _
  · split
    case h_1 | h_2 | h_3 => rfl
    all_goals exact decodeIndexed_of_agreesOn h _

theorem consumed_decodeOwn_withPalette (registers : RegisterFile) (palette : Palette)
    (plane : Plane) (baseWidth : Nat) (source : List UInt8) :
    (decodeOwn (registers.withPalette palette) plane baseWidth source).map DecodedLine.consumed =
      (decodeOwn registers plane baseWidth source).map DecodedLine.consumed := by
  unfold decodeOwn
  dsimp only [RegisterFile.withPalette, RegisterFile.codingMethod]
  split
  · rfl
  · exact consumed_decodeRunLength_eq _ _ _
  · split
    case h_1 | h_2 | h_3 => rfl
    all_goals exact consumed_decodeIndexed_eq _ _ _

/-- A plane's line is settled by the entries of its view. -/
theorem decode_withPalette
    (h : registers.palette.AgreesOn (registers.paletteView plane).Selects palette)
    (baseWidth : Nat) (sources : PerPlane (List UInt8)) :
    decode (registers.withPalette palette) plane baseWidth sources =
      decode registers plane baseWidth sources := by
  unfold decode
  rw [decodeOwn_withPalette h]
  rfl

/-- No palette entry decides how many bytes a line takes or why it fails. -/
theorem consumed_decode_withPalette (registers : RegisterFile) (palette : Palette)
    (plane : Plane) (baseWidth : Nat) (sources : PerPlane (List UInt8)) :
    (decode (registers.withPalette palette) plane baseWidth sources).map PlaneLine.consumed =
      (decode registers plane baseWidth sources).map PlaneLine.consumed := by
  have hown := consumed_decodeOwn_withPalette registers palette plane baseWidth (sources.get plane)
  have hmethod (side : Plane) :
      (registers.withPalette palette).codingMethod side = registers.codingMethod side := rfl
  by_cases hdirect : registers.codingMethod .b = .rgb555
  · rw [decode_direct hdirect, decode_direct ((hmethod .b).trans hdirect)]
    rfl
  · have hotherDirect : (registers.withPalette palette).codingMethod .b ≠ .rgb555 := hdirect
    by_cases hoff : registers.codingMethod plane = .off
    · rw [decode_off hdirect hoff, decode_off hotherDirect ((hmethod plane).trans hoff)]
    · have hotherOff : (registers.withPalette palette).codingMethod plane ≠ .off := hoff
      have hcount (parameters : DisplayParameters) (result : Except Failure DecodedLine) :
          (result.map (ofDecoded parameters)).map PlaneLine.consumed =
            result.map DecodedLine.consumed := by
        cases result <;> rfl
      rw [decode_own hdirect hoff, decode_own hotherDirect hotherOff, hcount, hcount, hown]

end PlaneLine

/-! ## Line buffers under another palette -/

namespace Decoder

variable {decoder : Decoder} {plane : Plane} {sources : PerPlane (List UInt8)}

/-- All lines have the same length, so their colors do not decide whether they are stored. -/
theorem decodeLine_snd (decoder : Decoder) (plane : Plane) (sources : PerPlane (List UInt8)) :
    (decoder.decodeLine plane sources).2 =
      ((PlaneLine.decode decoder.registers plane decoder.format.baseWidth sources).map
        PlaneLine.consumed).bind fun consumed ↦
          if 2 * decoder.format.baseWidth ≤ (decoder.planeLines.get plane).size then .ok consumed
          else .error .lineOutsideBuffer := by
  cases hline : PlaneLine.decode decoder.registers plane decoder.format.baseWidth sources with
  | error failure =>
    rw [decodeLine_eq_error hline]
    rfl
  | ok line =>
    simp only [decodeLine, hline, PlaneLine.size_decode hline, Except.map, Except.bind]
    split <;> rfl

/-- A plane's result and its buffer depend on the line and on what the buffer held before. -/
theorem decodeLine_congr (decoder other : Decoder)
    (hline : PlaneLine.decode other.registers plane other.format.baseWidth sources =
      PlaneLine.decode decoder.registers plane decoder.format.baseWidth sources)
    (hbuffer : other.planeLines.get plane = decoder.planeLines.get plane) :
    (other.decodeLine plane sources).2 = (decoder.decodeLine plane sources).2 ∧
      (other.decodeLine plane sources).1.planeLines.get plane =
        (decoder.decodeLine plane sources).1.planeLines.get plane := by
  simp only [decodeLine, hline, hbuffer]
  split
  · exact ⟨rfl, hbuffer⟩
  · split
    · simp only [storeLine, PerPlane.get_set_self, hbuffer, and_self]
    · exact ⟨rfl, hbuffer⟩

/-- Decoding a plane leaves the other plane's buffer alone. -/
theorem planeLines_decodeLine_other (decoder : Decoder) (plane : Plane)
    (sources : PerPlane (List UInt8)) :
    (decoder.decodeLine plane sources).1.planeLines.get plane.other =
      decoder.planeLines.get plane.other := by
  unfold decodeLine
  split
  · rfl
  · split
    · exact PerPlane.get_set_of_ne _ (Plane.other_ne plane) _
    · rfl

/-- Plane B is decoded as it would be alone, provided that plane A's line does not fail. -/
theorem decodeLines_eq (decoder : Decoder) (sources : PerPlane (List UInt8)) :
    (decoder.decodeLines sources).2 =
        ((decoder.decodeLine .a sources).2.bind fun consumedA ↦
          (decoder.decodeLine .b sources).2.map fun consumedB ↦ ⟨consumedA, consumedB⟩) ∧
      (decoder.decodeLines sources).1.planeLines.a =
        (decoder.decodeLine .a sources).1.planeLines.a ∧
      (decoder.decodeLines sources).1.planeLines.b =
        match (decoder.decodeLine .a sources).2 with
        | .error _ => decoder.planeLines.b
        | .ok _ => (decoder.decodeLine .b sources).1.planeLines.b := by
  obtain ⟨buffers, hafter, -⟩ := decodeLine_fst decoder .a sources
  have hb : (decoder.decodeLine .a sources).1.planeLines.b = decoder.planeLines.b :=
    planeLines_decodeLine_other decoder .a sources
  rcases hA : decoder.decodeLine .a sources with ⟨after, failure | consumedA⟩
  · rw [hA] at hb
    rw [decodeLines_of_error hA]
    exact ⟨rfl, rfl, hb⟩
  · rw [hA] at hafter hb
    cases hafter
    have hbuffer : buffers.b = decoder.planeLines.b := hb
    obtain ⟨hresult, hstored⟩ := decodeLine_congr decoder { decoder with planeLines := buffers }
      (Eq.refl (PlaneLine.decode decoder.registers .b decoder.format.baseWidth sources)) hbuffer
    rw [decodeLines_of_ok hA, hresult]
    exact ⟨rfl, planeLines_decodeLine_other _ .b sources, hstored⟩

/-- The decoder with another palette. -/
def withPalette (decoder : Decoder) (palette : Palette) : Decoder :=
  { decoder with registers := decoder.registers.withPalette palette }

theorem decodeLine_snd_withPalette (decoder : Decoder) (palette : Palette) (plane : Plane)
    (sources : PerPlane (List UInt8)) :
    ((decoder.withPalette palette).decodeLine plane sources).2 =
      (decoder.decodeLine plane sources).2 := by
  have hcount := PlaneLine.consumed_decode_withPalette decoder.registers palette plane
    decoder.format.baseWidth sources
  rw [decodeLine_snd, decodeLine_snd, ← hcount]
  rfl

theorem decodeLines_snd_withPalette (decoder : Decoder) (palette : Palette)
    (sources : PerPlane (List UInt8)) :
    ((decoder.withPalette palette).decodeLines sources).2 = (decoder.decodeLines sources).2 := by
  rw [(decodeLines_eq _ sources).1, (decodeLines_eq _ sources).1, decodeLine_snd_withPalette,
    decodeLine_snd_withPalette]

/-- The entries outside a plane's view leave its buffer as it is, also when the other plane's line
reads them or fails. -/
theorem planeLines_withPalette {palette : Palette}
    (h : decoder.registers.palette.AgreesOn (decoder.registers.paletteView plane).Selects palette)
    (sources : PerPlane (List UInt8)) :
    ((decoder.withPalette palette).decodeLines sources).1.planeLines.get plane =
      (decoder.decodeLines sources).1.planeLines.get plane := by
  have hline := PlaneLine.decode_withPalette h decoder.format.baseWidth sources
  have hbuffer : ((decoder.withPalette palette).decodeLine plane sources).1.planeLines.get plane =
      (decoder.decodeLine plane sources).1.planeLines.get plane :=
    (decodeLine_congr decoder (decoder.withPalette palette) hline rfl).2
  obtain ⟨-, hotherA, hotherB⟩ := decodeLines_eq (decoder.withPalette palette) sources
  obtain ⟨-, hA, hB⟩ := decodeLines_eq decoder sources
  cases plane with
  | a =>
    calc
      _ = _ := hotherA
      _ = _ := hbuffer
      _ = _ := hA.symm
  | b =>
    rw [decodeLine_snd_withPalette] at hotherB
    simp only [PerPlane.get] at hbuffer ⊢
    rw [hotherB, hB, hbuffer]
    rfl

/-- Plane B's line does not depend on the lower half of the palette, and plane A's not on the upper
half, unless plane A shows CLUT8 or CLUT7+7 with the high bank; in the latter case it does not
depend on the lower half. The same holds of the line buffers, where in addition the palette has no
part in the counts and failures of either plane. -/
theorem planes_keep_to_their_palette_halves :
    (∀ (registers : RegisterFile) (palette : Palette) (baseWidth : Nat)
      (sources : PerPlane (List UInt8)),
      ((∀ index, 128 ≤ index → index < 256 →
          palette.read index = registers.palette.read index) →
        PlaneLine.decode (registers.withPalette palette) .b baseWidth sources =
          PlaneLine.decode registers .b baseWidth sources) ∧
      (registers.codingMethod .a ≠ .clut8 →
        ¬ (registers.codingMethod .a = .clut77 ∧
          ImageCoding.highBank registers.imageCoding = true) →
        (∀ index < 128, palette.read index = registers.palette.read index) →
        PlaneLine.decode (registers.withPalette palette) .a baseWidth sources =
          PlaneLine.decode registers .a baseWidth sources) ∧
      (registers.codingMethod .a = .clut77 → ImageCoding.highBank registers.imageCoding = true →
        (∀ index, 128 ≤ index → index < 256 →
          palette.read index = registers.palette.read index) →
        PlaneLine.decode (registers.withPalette palette) .a baseWidth sources =
          PlaneLine.decode registers .a baseWidth sources)) ∧
    ∀ (decoder : Decoder) (palette : Palette) (sources : PerPlane (List UInt8)),
      ((decoder.withPalette palette).decodeLines sources).2 = (decoder.decodeLines sources).2 ∧
      ∀ plane, decoder.registers.palette.AgreesOn (decoder.registers.paletteView plane).Selects
          palette →
        ((decoder.withPalette palette).decodeLines sources).1.planeLines.get plane =
          (decoder.decodeLines sources).1.planeLines.get plane := by
  constructor
  · intro registers palette baseWidth sources
    refine ⟨?_, ?_, ?_⟩
    · intro hupper
      apply PlaneLine.decode_withPalette
      rw [registers.paletteView_b]
      exact fun index hindex ↦ hupper index hindex.1 hindex.2
    · intro hwide hbank hlower
      apply PlaneLine.decode_withPalette
      rw [RegisterFile.paletteView_a hwide hbank]
      exact hlower
    · intro hmethod hhigh hupper
      apply PlaneLine.decode_withPalette
      rw [RegisterFile.paletteView_a_of_highBank hmethod hhigh]
      exact fun index hindex ↦ hupper index hindex.1 hindex.2
  · intro decoder palette sources
    exact ⟨decodeLines_snd_withPalette decoder palette sources,
      fun plane h ↦ planeLines_withPalette h sources⟩

/-- CLUT7+7 with the high bank on plane A beside CLUT7 on plane B. -/
def highBankRegisters : RegisterFile :=
  { RegisterFile.initial with imageCoding := 0x400304 }

/-- A palette with a red entry in its lower half. -/
def lowerRed : Palette := Palette.zeroed.write 5 0xFF0000

/-- Neither plane shows the red entry of the lower half. With the low bank plane A would. -/
theorem planes_keep_to_their_palette_halves_high_bank :
    (∀ plane, PlaneLine.decode (highBankRegisters.withPalette lowerRed) plane 1 ⟨[0x85], [5]⟩ =
      PlaneLine.decode highBankRegisters plane 1 ⟨[0x85], [5]⟩) ∧
    PlaneLine.decode ({ RegisterFile.initial with imageCoding := 0x304 }.withPalette lowerRed) .a 1
        ⟨[0x85], [5]⟩ ≠
      PlaneLine.decode { RegisterFile.initial with imageCoding := 0x304 } .a 1 ⟨[0x85], [5]⟩ := by
  have hupper (index : Nat) (hlow : 128 ≤ index) (hhigh : index < 256) :
      lowerRed.read index = highBankRegisters.palette.read index := by
    apply Palette.read_write_of_ne
    rw [Palette.entry, Palette.entry, ne_eq, Fin.mk.injEq]
    omega
  obtain ⟨hb, -, ha⟩ :=
    planes_keep_to_their_palette_halves.1 highBankRegisters lowerRed 1 ⟨[0x85], [5]⟩
  constructor
  · intro plane
    cases plane with
    | a => exact ha (by decide) (by decide) hupper
    | b => exact hb hupper
  · decide +kernel

end Decoder

end DualPlaneVideo
