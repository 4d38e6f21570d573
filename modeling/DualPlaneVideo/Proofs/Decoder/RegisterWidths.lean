import DualPlaneVideo.Proofs.ControlProgram.Targets
import DualPlaneVideo.Proofs.Decoder.Isolation

/-!
# Widths of the registers

Registers are kept in words and bytes, but most of them have fewer bits than these. Some mask a value
when they take it in, and others rely on whoever writes to them. Either way no register of a reachable
decoder holds more than it has bits for, and its display areas start in memory.
-/

namespace DualPlaneVideo

/-- Both values have the property. -/
def PerPlane.All {α : Type} (property : α → Prop) (pair : PerPlane α) : Prop :=
  ∀ plane, property (pair.get plane)

theorem PerPlane.All.set {α : Type} {property : α → Prop} {pair : PerPlane α}
    (h : pair.All property) (target : Plane) {value : α} (hvalue : property value) :
    (pair.set target value).All property := by
  intro plane
  by_cases hplane : plane = target
  · rw [hplane, get_set_self]
    exact hvalue
  · rw [get_set_of_ne _ hplane]
    exact h plane

/-- The word has no more than 24 bits. -/
def Word.Fits24 (word : Word) : Prop := word.toNat < 0x1000000

instance (word : Word) : Decidable word.Fits24 := inferInstanceAs (Decidable (_ < _))

/-- Every entry of the palette has 24 bits. -/
def Palette.FitsWidth (palette : Palette) : Prop :=
  ∀ index, (palette.read index).Fits24

/-- Whatever is written, an entry keeps the low 24 bits of it. -/
theorem Palette.FitsWidth.write {palette : Palette} (h : palette.FitsWidth) (target : Nat)
    (value : Word) : (palette.write target value).FitsWidth := by
  intro index
  by_cases hentry : entry index = entry target
  · rw [read_write_of_eq palette value hentry]
    exact value.low24_lt
  · rw [read_write_of_ne palette value hentry]
    exact h index

/-- The repeat count is one of four. -/
def DisplayParameters.RepeatFits (parameters : DisplayParameters) : Prop :=
  parameters.pixelRepeat ∈ [2, 4, 8, 16]

instance (parameters : DisplayParameters) : Decidable parameters.RepeatFits :=
  inferInstanceAs (Decidable (_ ∈ _))

/-- The repeat count is two, and twice as much for each step of its field. -/
theorem DisplayParameters.repeatFits_of_load {parameters loaded : DisplayParameters}
    {operand : Word} (h : parameters.load? operand = some loaded) : loaded.RepeatFits := by
  have hcounts : ∀ step < 4, (2 <<< step).toUInt8 ∈ ([2, 4, 8, 16] : List UInt8) := by decide
  obtain ⟨depth, -, rfl⟩ := Option.map_eq_some_iff.mp h
  exact hcounts _ (operand.field_lt 2 2)

namespace RegisterFile

/-- Every register keeps to its width. -/
structure FitsWidths (registers : RegisterFile) : Prop where
  imageCoding : registers.imageCoding.Fits24
  transparency : registers.transparency.Fits24
  transparentColor : registers.transparentColor.All Word.Fits24
  maskColor : registers.maskColor.All Word.Fits24
  yuvSeed : registers.yuvSeed.All Word.Fits24
  cursorPosition : registers.cursorPosition.Fits24
  cursorControl : registers.cursorControl.Fits24
  mosaicFactor : registers.mosaicFactor.All Word.Fits24
  matteCommands : ∀ index : Fin 8, (registers.matteCommands.get index).Fits24
  palette : registers.palette.FitsWidth
  paletteBank : registers.paletteBank < 4
  backdrop : registers.backdrop < 16
  contributionFactor : registers.contributionFactor.All (· < 64)
  pixelRepeat : registers.parameters.All DisplayParameters.RepeatFits

namespace FitsWidths

variable {registers : RegisterFile}

theorem initial : RegisterFile.initial.FitsWidths where
  imageCoding := by decide
  transparency := by decide
  transparentColor _ := by rw [RegisterFile.initial, PerPlane.get_both]; decide
  maskColor _ := by rw [RegisterFile.initial, PerPlane.get_both]; decide
  yuvSeed _ := by rw [RegisterFile.initial, PerPlane.get_both]; decide
  cursorPosition := by decide
  cursorControl := by decide
  mosaicFactor _ := by rw [RegisterFile.initial, PerPlane.get_both]; decide
  matteCommands := by decide
  palette index := by
    have hzero : Palette.zeroed.read index = 0 := Vector.getElem_replicate (Palette.entry index).isLt
    rw [RegisterFile.initial, hzero]
    decide
  paletteBank := by decide
  backdrop := by decide
  contributionFactor _ := by rw [RegisterFile.initial, PerPlane.get_both]; decide
  pixelRepeat _ := by rw [RegisterFile.initial, PerPlane.get_both]; decide

theorem setMatteCommand (h : registers.FitsWidths) (target : Fin 8) {value : Word}
    (hvalue : value.Fits24) : FitsWidths { registers with
      matteCommands := registers.matteCommands.set target value target.isLt } where
  __ := h
  matteCommands index := by
    have hkept : registers.matteCommands[index].Fits24 := h.matteCommands index
    change (registers.matteCommands.set target value target.isLt)[index].Fits24
    by_cases hindex : target.val = index.val
    · simpa [Vector.getElem_set, hindex] using hvalue
    · simpa [Vector.getElem_set, hindex] using hkept

/-- A register of 24 bits takes a value of 24 bits as it is, and a smaller one masks it. -/
theorem store (h : registers.FitsWidths) (register : ControlRegister) {value : Word}
    (hvalue : value.Fits24) (policy : CodingPolicy) :
    (registers.store register value policy).FitsWidths := by
  cases register with
  | paletteEntry offset => exact { h with palette := h.palette.write _ value }
  | imageCoding =>
    simp only [RegisterFile.store, setImageCoding]
    split
    · exact h
    · exact { h with imageCoding := hvalue }
  | transparency => exact { h with transparency := hvalue }
  | planeOrder => exact { h with }
  | paletteBank =>
    have hbank : (value.field 0 2).toUInt8 < 4 := by
      rw [UInt8.lt_iff_toNat_lt, value.toNat_toUInt8_field 0 (by decide)]
      exact value.field_lt 0 2
    exact { h with paletteBank := hbank }
  | transparentColor plane =>
    exact { h with transparentColor := h.transparentColor.set plane hvalue }
  | maskColor plane => exact { h with maskColor := h.maskColor.set plane hvalue }
  | yuvSeed plane => exact { h with yuvSeed := h.yuvSeed.set plane hvalue }
  | cursorPosition => exact { h with cursorPosition := hvalue }
  | cursorControl => exact { h with cursorControl := hvalue }
  | cursorPattern => exact { h with }
  | matteCommand index => exact h.setMatteCommand index hvalue
  | backdrop =>
    have hcode : (value.field 0 4).toUInt8 < 16 := by
      rw [UInt8.lt_iff_toNat_lt, value.toNat_toUInt8_field 0 (by decide)]
      exact value.field_lt 0 4
    exact { h with backdrop := hcode }
  | mosaicFactor plane =>
    -- Pixel hold is loaded along with the factor and keeps the repeat count.
    have hparameters := h.pixelRepeat.set plane
      (show ((registers.parameters.get plane).loadHold value).RepeatFits from h.pixelRepeat plane)
    exact { h with
      mosaicFactor := h.mosaicFactor.set plane hvalue
      pixelRepeat := hparameters }
  | contributionFactor plane =>
    have hfactor : (value.field 0 6).toUInt8 < 64 := by
      rw [UInt8.lt_iff_toNat_lt, value.toNat_toUInt8_field 0 (by decide)]
      exact value.field_lt 0 6
    exact { h with contributionFactor := h.contributionFactor.set plane hfactor }

theorem load (h : registers.FitsWidths) (channel : Plane) (opcode : UInt8) {value : Word}
    (hvalue : value.Fits24) (policy : CodingPolicy) :
    (registers.load channel opcode value policy).FitsWidths := by
  unfold RegisterFile.load
  split
  · exact h
  · split
    · exact h.store _ hvalue policy
    · exact h

theorem keptBy (channel : Plane) (policy : CodingPolicy) : KeptBy channel policy FitsWidths where
  load _ opcode _ hvalue h := h.load channel opcode hvalue policy
  parameters _ _ _ hload h :=
    { h with pixelRepeat :=
        h.pixelRepeat.set channel (DisplayParameters.repeatFits_of_load hload) }
  interrupt _ h := { h with }

/-- The bus masks what it writes, the matte takes its factors from fields of six bits, and a reset
clears bits only. -/
theorem lasting : Lasting FitsWidths where
  initial := initial
  keptBy := keptBy
  paletteEntry _ index value h := { h with palette := h.palette.write index value }
  matteCommand _ index value h := h.setMatteCommand index value.low24_lt
  cursorRow _ _ _ h := { h with }
  system _ _ h := { h with }
  matte registers count h :=
    have hstart : (Decoder.startMatte registers).FactorsFit := h.contributionFactor
    { h with contributionFactor := hstart.run count }
  reset registers h :=
    have hcontrol : (registers.cursorControl &&& 0xFF7FFFFF).Fits24 := by
      rw [Word.Fits24, UInt32.toNat_and]
      exact Nat.lt_of_le_of_lt Nat.and_le_left h.cursorControl
    have hcoding : Word.Fits24 0 := by decide
    { h with
      imageCoding := hcoding
      cursorControl := hcontrol }

end FitsWidths

end RegisterFile

/-! ## Display areas -/

namespace Decoder

variable {decoder : Decoder}

/-- The display areas that the channels have selected start in memory. -/
def AreasInRam (decoder : Decoder) : Prop := decoder.areas.All DisplayArea.InRam

/-- The read cursors that programs have loaded are in memory. -/
def CursorsInRam (cursors : PerPlane (Option Word)) : Prop :=
  cursors.All fun cursor? ↦ ∀ cursor ∈ cursor?, InRam cursor

/-- The initial programs start from the areas of the last frame. -/
theorem AreasInRam.enterFrame (h : decoder.AreasInRam) (memory : Memory) :
    (decoder.enterFrame memory).decoder.AreasInRam ∧
      ∀ cursors, (decoder.enterFrame memory).result = .ok cursors → CursorsInRam cursors := by
  have hran := Schedule.inRam_runInitialAreas memory decoder.settings decoder.registers h
  unfold Decoder.enterFrame
  dsimp only
  split
  · refine ⟨hran.areas, ?_⟩
    rintro cursors ⟨⟩
  · rename_i requests hrequests
    refine ⟨hran.areas, ?_⟩
    rintro cursors ⟨⟩ plane
    rw [PerPlane.get_map]
    exact hran.requests requests hrequests plane

theorem AreasInRam.advanceLine (h : decoder.AreasInRam) (memory : Memory)
    (sources : PerPlane (List UInt8)) :
    (decoder.advanceLine memory sources).decoder.AreasInRam ∧
      ∀ report, (decoder.advanceLine memory sources).result = .ok report →
        CursorsInRam report.readCursors := by
  obtain ⟨factors, planeLines, frame, backdrop, hshown⟩ := showLine_fst decoder sources
  unfold Decoder.advanceLine
  rcases hshow : decoder.showLine sources with ⟨shown, failure | consumed⟩
  all_goals
    rw [hshow] at hshown
    cases hshown
    dsimp only
  · refine ⟨h, ?_⟩
    rintro report ⟨⟩
  · have hran := Schedule.inRam_runDisplayAreas memory decoder.settings
      { decoder.registers with contributionFactor := factors } h
    split
    · refine ⟨hran.areas, ?_⟩
      rintro report ⟨⟩
    · rename_i requests hrequests
      refine ⟨hran.areas, ?_⟩
      rintro report ⟨⟩ plane
      rw [PerPlane.get_map]
      exact hran.requests requests hrequests plane

theorem areasInRam_none : (PerPlane.both default).All DisplayArea.InRam := by
  intro plane
  rw [PerPlane.get_both]
  rintro start ⟨⟩

theorem Reachable.areasInRam (reachable : decoder.Reachable) : decoder.AreasInRam := by
  induction reachable using Reachable.registers_induction with
  | initial settings => exact areasInRam_none
  | registers _ registers _ ih => exact ih
  | reset _ ih => exact areasInRam_none
  | reload _ settings ih => exact ih
  | enterFrame _ memory ih => exact (ih.enterFrame memory).1
  | advanceLine _ memory sources ih => exact (ih.advanceLine memory sources).1
  | finishFrame _ hfinish ih =>
    obtain ⟨frame, -, rfl⟩ := except_map_eq_ok_iff.mp hfinish
    exact ih

end Decoder

end DualPlaneVideo
