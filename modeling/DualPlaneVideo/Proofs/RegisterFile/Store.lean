import DualPlaneVideo.Proofs.Word
import DualPlaneVideo.RegisterFile.Access

/-!
# Registers read back

Opcodes and registers name each other one to one, so a value that is stored through an opcode is read
through the same opcode and no other. A store changes the register that it is for; with the palette
bank it also changes which entries the opcodes of the palette stand for, and with a mosaic factor the
pixel hold of the plane.
-/

namespace DualPlaneVideo

/-! ## Opcodes -/

namespace ControlRegister

/-- The opcode that names a register. -/
def opcode : ControlRegister → UInt8
  | paletteEntry offset => 0x80 + offset
  | imageCoding => 0xC0
  | transparency => 0xC1
  | planeOrder => 0xC2
  | paletteBank => 0xC3
  | transparentColor .a => 0xC4
  | transparentColor .b => 0xC6
  | maskColor .a => 0xC7
  | maskColor .b => 0xC9
  | yuvSeed .a => 0xCA
  | yuvSeed .b => 0xCB
  | cursorPosition => 0xCD
  | cursorControl => 0xCE
  | cursorPattern => 0xCF
  | matteCommand index => 0xD0 + index.val.toUInt8
  | backdrop => 0xD8
  | mosaicFactor .a => 0xD9
  | mosaicFactor .b => 0xDA
  | contributionFactor .a => 0xDB
  | contributionFactor .b => 0xDC

/-- A bank has no more than 64 entries. -/
def isNamed : ControlRegister → Bool
  | paletteEntry offset => offset < 64
  | _ => true

/-- The number of bits that a register keeps. -/
def width : ControlRegister → Nat
  | planeOrder => 1
  | paletteBank => 2
  | backdrop => 4
  | contributionFactor _ => 6
  | _ => 24

variable {register other : ControlRegister} {code : UInt8}

theorem ofOpcode?_opcode (h : register.isNamed) : ofOpcode? register.opcode = some register := by
  cases register with
  | paletteEntry offset =>
    have hall : ∀ value : Fin 256, UInt8.ofFin value < 64 →
        ofOpcode? (0x80 + UInt8.ofFin value) = some (.paletteEntry (UInt8.ofFin value)) := by
      decide +kernel
    exact hall offset.toFin (of_decide_eq_true h)
  | matteCommand index =>
    have hall : ∀ index : Fin 8,
        ofOpcode? (opcode (.matteCommand index)) = some (.matteCommand index) := by decide +kernel
    exact hall index
  | transparentColor plane | maskColor plane | yuvSeed plane | mosaicFactor plane
  | contributionFactor plane => cases plane <;> rfl
  | _ => rfl

/-- What an opcode names has that opcode. -/
theorem opcode_of_ofOpcode? (h : ofOpcode? code = some register) :
    register.isNamed ∧ register.opcode = code := by
  have hall : ∀ value : Fin 256, ∀ register ∈ ofOpcode? (UInt8.ofFin value),
      register.isNamed ∧ register.opcode = UInt8.ofFin value := by
    decide +kernel
  exact hall code.toFin register h

/-- The opcode of one register names no other. -/
theorem ne_of_opcode_ne (h : ofOpcode? code = some register) (hne : code ≠ other.opcode) :
    register ≠ other := by
  rintro rfl
  exact hne (opcode_of_ofOpcode? h).2.symm

theorem toNat_of_ofOpcode?_paletteEntry {offset : UInt8}
    (h : ofOpcode? code = some (.paletteEntry offset)) :
    offset.toNat < 64 ∧ code.toNat = 0x80 + offset.toNat := by
  obtain ⟨hnamed, rfl⟩ := opcode_of_ofOpcode? h
  have hoffset : offset.toNat < 64 := UInt8.lt_iff_toNat_lt.mp (of_decide_eq_true hnamed)
  refine ⟨hoffset, ?_⟩
  rw [opcode, UInt8.toNat_add]
  exact Nat.mod_eq_of_lt (by simp; omega)

theorem toNat_opcode_matteCommand (index : Fin 8) :
    (opcode (.matteCommand index)).toNat = 0xD0 + index := by
  revert index
  decide +kernel

theorem ofOpcode?_eq_matteCommand_iff {index : Fin 8} :
    ofOpcode? code = some (.matteCommand index) ↔ code.toNat = 0xD0 + index := by
  constructor
  · intro h
    rw [← (opcode_of_ofOpcode? h).2, toNat_opcode_matteCommand]
  · intro h
    have hopcode : opcode (.matteCommand index) = code := by
      apply UInt8.toNat_inj.mp
      rw [toNat_opcode_matteCommand, h]
    rw [← hopcode]
    exact ofOpcode?_opcode rfl

end ControlRegister

/-! ## Palette entries -/

namespace Palette

variable {index target : Nat}

theorem read_write_of_eq (palette : Palette) (value : Word) (h : entry index = entry target) :
    (palette.write target value).read index = value.low24 := by
  calc
    (palette.write target value).read index = (palette.write target value).read target :=
      congrArg (fun place ↦ (palette.write target value).entries[place]) h
    _ = value.low24 := Vector.getElem_set_self (entry target).isLt

theorem read_write_of_ne (palette : Palette) (value : Word) (h : entry index ≠ entry target) :
    (palette.write target value).read index = palette.read index := by
  have hne : (entry target).val ≠ (entry index).val := fun hsame ↦ h (Fin.ext hsame.symm)
  exact Vector.getElem_set_ne (entry target).isLt (entry index).isLt hne

/-- Two entries of a bank have two places in the table. -/
theorem entry_indexInBank_ne {bank offset other : UInt8} (hoffset : offset < 64)
    (hother : other < 64) (h : offset ≠ other) :
    entry (indexInBank bank offset) ≠ entry (indexInBank bank other) := by
  have hvalues : offset.toNat ≠ other.toNat := fun hsame ↦ h (UInt8.toNat_inj.mp hsame)
  have hoffset : offset.toNat < 64 := UInt8.lt_iff_toNat_lt.mp hoffset
  have hother : other.toNat < 64 := UInt8.lt_iff_toNat_lt.mp hother
  have hbank := bitField_lt bank.toNat 0 2
  have hlow {code : UInt8} (hcode : code.toNat < 64) : bitField code.toNat 0 6 = code.toNat :=
    Nat.mod_eq_of_lt hcode
  intro hsame
  have hsame := congrArg Fin.val hsame
  change (_ * 64 + _) % 256 = (_ * 64 + _) % 256 at hsame
  change _ < 4 at hbank
  rw [hlow hoffset, hlow hother] at hsame
  omega

end Palette

/-! ## Stores -/

namespace ImageCoding

/-- The combinations of coding methods that the planes may have. -/
structure Allowed (register : Word) : Prop where
  direct : method register .b = .rgb555 → method register .a = .off
  wide : method register .a = .clut8 ∨ method register .a = .clut77 →
    method register .b = .dyuv ∨ method register .b = .off

variable {register : Word}

theorem conflict?_eq_none_iff : conflict? register = none ↔ Allowed register := by
  unfold conflict?
  constructor
  · intro h
    dsimp only at h
    split at h
    · cases h
    · rename_i hdirect
      split at h
      · cases h
      · rename_i hwide
        constructor
        · intro hb
          by_contra ha
          exact hdirect ⟨hb, ha⟩
        · intro ha
          by_contra hb
          obtain ⟨hdelta, hoff⟩ := not_or.mp hb
          exact hwide ⟨ha, hdelta, hoff⟩
  · intro h
    dsimp only
    rw [if_neg, if_neg]
    · rintro ⟨ha, hdelta, hoff⟩
      exact (h.wide ha).elim hdelta hoff
    · rintro ⟨hb, ha⟩
      exact ha (h.direct hb)

instance (register : Word) : Decidable (Allowed register) :=
  decidable_of_iff _ conflict?_eq_none_iff

end ImageCoding

namespace RegisterFile

variable {registers : RegisterFile} {register other : ControlRegister} {value : Word}
  {policy : CodingPolicy}

theorem setImageCoding_of_allowed (h : ImageCoding.Allowed value) :
    registers.setImageCoding value policy = { registers with imageCoding := value } := by
  rw [setImageCoding, ImageCoding.conflict?_eq_none_iff.mpr h]
  rfl

theorem setImageCoding_of_not_allowed (h : ¬ ImageCoding.Allowed value) :
    registers.setImageCoding value .strict = registers := by
  have hconflict : (ImageCoding.conflict? value).isSome = true := by
    rw [Option.isSome_iff_ne_none]
    exact mt ImageCoding.conflict?_eq_none_iff.mp h
  rw [setImageCoding, hconflict]
  rfl

theorem setImageCoding_permissive :
    registers.setImageCoding value .permissive = { registers with imageCoding := value } := by
  rw [setImageCoding, CodingPolicy.isStrict, Bool.and_false]
  rfl

/-- Whether the value is taken or rejected, no other register changes. -/
theorem store_imageCoding_keeps {α : Type} (project : RegisterFile → α)
    (h : ∀ imageCoding, project { registers with imageCoding } = project registers) :
    project (registers.store .imageCoding value policy) = project registers := by
  simp only [store, setImageCoding]
  split
  · rfl
  · exact h value

/-- No other register holds the coding methods. -/
theorem imageCoding_store_of_ne (h : register ≠ .imageCoding) :
    (registers.store register value policy).imageCoding = registers.imageCoding := by
  cases register with
  | imageCoding => exact absurd rfl h
  | _ => rfl

theorem system_store (registers : RegisterFile) (register : ControlRegister) (value : Word)
    (policy : CodingPolicy) :
    (registers.store register value policy).system = registers.system := by
  cases register with
  | imageCoding => exact store_imageCoding_keeps (·.system) fun _ ↦ rfl
  | _ => rfl

theorem cursorPattern_store_of_ne (h : register ≠ .cursorPattern) :
    (registers.store register value policy).cursorPattern = registers.cursorPattern := by
  cases register with
  | cursorPattern => exact absurd rfl h
  | imageCoding => exact store_imageCoding_keeps (·.cursorPattern) fun _ ↦ rfl
  | _ => rfl

theorem matteCommands_store_of_ne {index : Fin 8} (h : register ≠ .matteCommand index) :
    (registers.store register value policy).matteCommands.get index =
      registers.matteCommands.get index := by
  cases register with
  | matteCommand target =>
    have hplace : target.val ≠ index.val := fun hsame ↦ h (congrArg _ (Fin.ext hsame))
    exact Vector.getElem_set_ne target.isLt index.isLt hplace
  | imageCoding => exact store_imageCoding_keeps (·.matteCommands.get index) fun _ ↦ rfl
  | _ => rfl

/-- Pixel hold comes with the mosaic factor, and a store changes nothing else of the parameters. -/
theorem parameters_store_of_ne {plane : Plane} (h : register ≠ .mosaicFactor plane) :
    (registers.store register value policy).parameters.get plane =
      registers.parameters.get plane := by
  cases register with
  | mosaicFactor target =>
    exact PerPlane.get_set_of_ne _ (fun hsame ↦ h (congrArg _ hsame.symm)) _
  | imageCoding => exact store_imageCoding_keeps (·.parameters.get plane) fun _ ↦ rfl
  | _ => rfl

theorem paletteBank_store_of_ne (h : register ≠ .paletteBank) :
    (registers.store register value policy).paletteBank = registers.paletteBank := by
  cases register with
  | paletteBank => exact absurd rfl h
  | imageCoding => exact store_imageCoding_keeps (·.paletteBank) fun _ ↦ rfl
  | _ => rfl

theorem palette_store_of_ne {index : Nat}
    (h : ∀ offset, register = .paletteEntry offset →
      Palette.entry index ≠ Palette.entry (Palette.indexInBank registers.paletteBank offset)) :
    (registers.store register value policy).palette.read index = registers.palette.read index := by
  cases register with
  | paletteEntry offset => exact Palette.read_write_of_ne _ value (h offset rfl)
  | imageCoding => exact store_imageCoding_keeps (·.palette.read index) fun _ ↦ rfl
  | _ => rfl

/-! ## Reading -/

theorem isSome_read? (registers : RegisterFile) (register : ControlRegister) :
    (registers.read? register).isSome = decide (register ≠ .cursorPattern) := by
  cases register <;> rfl

/-- A register that takes a value reads as the bits of it that the register has. -/
theorem read?_store_self (hread : register ≠ .cursorPattern)
    (htaken : register = .imageCoding → policy = .permissive ∨ ImageCoding.Allowed value.low24) :
    (registers.store register value.low24 policy).read? register =
      some (value.lowBits register.width) := by
  have hwords : value.low24 = value.lowBits 24 := value.lowBits_24.symm
  have hbyte {width : Nat} (hwidth : width < 8) :
      (value.low24.field 0 width).toUInt8.toUInt32 = value.lowBits width := by
    rw [Word.toUInt32_toUInt8_field _ hwidth, Word.lowBits_low24 _ (by omega)]
  cases register with
  | cursorPattern => exact absurd rfl hread
  | imageCoding =>
    have hstored : registers.store .imageCoding value.low24 policy =
        { registers with imageCoding := value.low24 } := by
      rcases htaken rfl with rfl | hallowed
      · exact setImageCoding_permissive
      · exact setImageCoding_of_allowed hallowed
    rw [hstored]
    exact congrArg some hwords
  | paletteEntry offset =>
    have hentry : (registers.palette.write (Palette.indexInBank registers.paletteBank offset)
        value.low24).read (Palette.indexInBank registers.paletteBank offset) = value.low24 := by
      rw [Palette.read_write_of_eq _ _ rfl, Word.low24_low24]
    exact congrArg some (hentry.trans hwords)
  | planeOrder =>
    have hbit : value.lowBits 1 = if value.low24.bit 0 then 1 else 0 := by
      rw [Word.lowBits_1, Word.bit_low24 value (by decide)]
    simp only [store, read?, ControlRegister.width, hbit]
    split <;> rfl
  | paletteBank => exact congrArg some (hbyte (by decide))
  | backdrop => exact congrArg some (hbyte (by decide))
  | contributionFactor plane =>
    simp only [store, read?, PerPlane.get_set_self, ControlRegister.width, hbyte (by decide : 6 < 8)]
  | transparentColor plane | maskColor plane | yuvSeed plane | mosaicFactor plane =>
    simp only [store, read?, PerPlane.get_set_self, ControlRegister.width, hwords]
  | matteCommand index =>
    have hcommand : (registers.store (.matteCommand index) value.low24 policy).matteCommands[index] =
        value.low24 := Vector.getElem_set_self index.isLt
    exact congrArg some (hcommand.trans hwords)
  | transparency | cursorPosition | cursorControl => exact congrArg some hwords

/-- What is read of a register keeps its value in a store that is for another one. The opcodes of the
palette go over to other entries when the bank changes. -/
theorem read?_store_of_ne (hregister : register.isNamed) (hother : other.isNamed)
    (hne : other ≠ register)
    (hbank : register = .paletteBank → ∀ offset, other ≠ .paletteEntry offset) :
    (registers.store register value policy).read? other = registers.read? other := by
  cases other with
  | paletteEntry offset =>
    have hkept : (registers.store register value policy).paletteBank = registers.paletteBank :=
      paletteBank_store_of_ne fun hsame ↦ hbank hsame offset rfl
    simp only [read?, hkept]
    refine congrArg some (palette_store_of_ne ?_)
    rintro target rfl
    exact Palette.entry_indexInBank_ne (of_decide_eq_true hother) (of_decide_eq_true hregister)
      fun hsame ↦ hne (congrArg _ hsame)
  | matteCommand index => exact congrArg some (matteCommands_store_of_ne hne.symm)
  | imageCoding => exact congrArg some (imageCoding_store_of_ne hne.symm)
  | paletteBank =>
    exact congrArg (fun bank ↦ some bank.toUInt32) (paletteBank_store_of_ne hne.symm)
  | transparency | planeOrder | cursorPosition | cursorControl | cursorPattern | backdrop =>
    cases register with
    | imageCoding => exact store_imageCoding_keeps (RegisterFile.read? · _) fun _ ↦ rfl
    | _ => first | rfl | exact absurd rfl hne
  | transparentColor plane | maskColor plane | yuvSeed plane | mosaicFactor plane
  | contributionFactor plane =>
    cases register with
    | imageCoding => exact store_imageCoding_keeps (RegisterFile.read? · _) fun _ ↦ rfl
    | transparentColor target | maskColor target | yuvSeed target | mosaicFactor target
    | contributionFactor target =>
      -- Registers of one kind differ in the plane, and a store keeps the other plane's.
      first
      | rfl
      | have hplane : plane ≠ target := fun hsame ↦ hne (congrArg _ hsame)
        simp only [store, read?, PerPlane.get_set_of_ne _ hplane]
    | _ => rfl

end RegisterFile

end DualPlaneVideo
