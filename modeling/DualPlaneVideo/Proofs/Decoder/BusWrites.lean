import DualPlaneVideo.Proofs.Decoder.Isolation

/-!
# Registers written over the bus

A register that the bus writes reads back as the bits that it keeps, and the write leaves all else
that the bus can read as it was. Two writes reach further: one of the palette bank, after which the
opcodes of the palette read other entries, and one of a mosaic factor, which sets the pixel hold of
the plane.
-/

namespace DualPlaneVideo

/-! ## Opcodes -/

/-- The opcodes of registers. -/
def NamesRegister (opcode : UInt8) : Prop :=
  0x80 ≤ opcode ∧ opcode ≤ 0xDC ∧ opcode ∉ ([0xC5, 0xC8, 0xCC] : List UInt8)

instance (opcode : UInt8) : Decidable (NamesRegister opcode) :=
  inferInstanceAs (Decidable (_ ∧ _ ∧ _))

/-- The opcodes of registers that can be read, which are all but that of the cursor pattern. -/
def ReadsBack (opcode : UInt8) : Prop := NamesRegister opcode ∧ opcode ≠ 0xCF

instance (opcode : UInt8) : Decidable (ReadsBack opcode) := inferInstanceAs (Decidable (_ ∧ _))

/-- The opcodes of palette entries. -/
def NamesPaletteEntry (opcode : UInt8) : Prop := 0x80 ≤ opcode ∧ opcode < 0xC0

instance (opcode : UInt8) : Decidable (NamesPaletteEntry opcode) :=
  inferInstanceAs (Decidable (_ ∧ _))

/-- The number of bits that the register of an opcode keeps. -/
def registerWidth : UInt8 → Nat
  | 0xC2 => 1
  | 0xC3 => 2
  | 0xD8 => 4
  | 0xDB => 6
  | 0xDC => 6
  | _ => 24

/-- The opcode that loads a plane's pixel hold. -/
def holdOpcode : Plane → UInt8
  | .a => 0xD9
  | .b => 0xDA

namespace ControlRegister

variable {opcode : UInt8} {register : ControlRegister}

theorem isSome_ofOpcode? (opcode : UInt8) :
    (ofOpcode? opcode).isSome = decide (NamesRegister opcode) := by
  have hall : ∀ value : Fin 256,
      (ofOpcode? (UInt8.ofFin value)).isSome = decide (NamesRegister (UInt8.ofFin value)) := by
    decide +kernel
  exact hall opcode.toFin

theorem width_of_ofOpcode? (h : ofOpcode? opcode = some register) :
    register.width = registerWidth opcode := by
  have hall : ∀ value : Fin 256, ∀ register ∈ ofOpcode? (UInt8.ofFin value),
      register.width = registerWidth (UInt8.ofFin value) := by
    decide +kernel
  exact hall opcode.toFin register h

theorem ofOpcode?_of_paletteEntry (h : NamesPaletteEntry opcode) :
    ofOpcode? opcode = some (.paletteEntry (opcode - 0x80)) := by
  rw [ofOpcode?, if_neg (UInt8.not_lt.mpr h.1), if_pos h.2]

theorem namesPaletteEntry_of_ofOpcode? {offset : UInt8}
    (h : ofOpcode? opcode = some (.paletteEntry offset)) : NamesPaletteEntry opcode := by
  obtain ⟨hoffset, hcode⟩ := toNat_of_ofOpcode?_paletteEntry h
  constructor
  · rw [UInt8.le_iff_toNat_le, hcode]
    exact Nat.le_add_right _ _
  · rw [UInt8.lt_iff_toNat_lt, hcode]
    exact Nat.add_lt_add_left hoffset 0x80

end ControlRegister

/-! ## Values -/

/-- The place of the entry that an opcode names. -/
theorem Palette.indexInBank_of_namesPaletteEntry {bank opcode : UInt8} (hbank : bank < 4)
    (h : NamesPaletteEntry opcode) :
    indexInBank bank (opcode - 0x80) = bank.toNat * 64 + (opcode.toNat - 0x80) := by
  have hlow : 0x80 ≤ opcode.toNat := UInt8.le_iff_toNat_le.mp h.1
  have hhigh : opcode.toNat < 0xC0 := UInt8.lt_iff_toNat_lt.mp h.2
  have hbank : bank.toNat < 4 := UInt8.lt_iff_toNat_lt.mp hbank
  have hoffset : (opcode - 0x80).toNat = opcode.toNat - 0x80 := UInt8.toNat_sub_of_le _ _ h.1
  change bank.toNat % 4 * 64 + (opcode - 0x80).toNat % 64 = _
  rw [hoffset]
  omega

theorem DisplayParameters.loadHold_low24 (parameters : DisplayParameters) (value : Word) :
    parameters.loadHold value.low24 = parameters.loadHold value := by
  rw [loadHold, Word.bit_low24 value (by decide), Word.field_low24 value (by decide), loadHold]

theorem ImageCoding.allowed_low24_iff {value : Word} : Allowed value.low24 ↔ Allowed value := by
  have hmethod (plane : Plane) : method value.low24 plane = method value plane := by
    cases plane with
    | a => exact congrArg methodOfCodeA (Word.field_low24 value (by decide))
    | b => exact congrArg methodOfCodeB (Word.field_low24 value (by decide))
  constructor
  · rintro ⟨hdirect, hwide⟩
    simp only [hmethod] at hdirect hwide
    exact ⟨hdirect, hwide⟩
  · rintro ⟨hdirect, hwide⟩
    constructor
    · simpa only [hmethod] using hdirect
    · simpa only [hmethod] using hwide

namespace Decoder

variable {decoder : Decoder} {opcode : UInt8} {register : ControlRegister} {value : Word}

/-! ## Stores for the bus -/

/-- The bus may load every register. -/
theorem admits_busChannel (registers : RegisterFile)
    (h : ControlRegister.ofOpcode? opcode = some register) :
    registers.admits (busChannel opcode) register = true := by
  cases register <;> simp [busChannel, h, RegisterFile.admits, ControlRegister.owner?]

theorem registers_writeRegister (h : ControlRegister.ofOpcode? opcode = some register) :
    (decoder.writeRegister opcode value).registers =
      decoder.registers.store register value.low24 decoder.settings.policy := by
  rw [writeRegister, RegisterFile.load, h]
  exact if_pos (admits_busChannel decoder.registers h)

theorem writeRegister_of_none (h : ControlRegister.ofOpcode? opcode = none) :
    decoder.writeRegister opcode value = decoder := by
  rw [writeRegister, RegisterFile.load, h]

/-- What a store of the register keeps is kept by the write. -/
theorem writeRegister_keeps {α : Type} (project : RegisterFile → α)
    (h : ∀ register, ControlRegister.ofOpcode? opcode = some register →
      project (decoder.registers.store register value.low24 decoder.settings.policy) =
        project decoder.registers) :
    project (decoder.writeRegister opcode value).registers = project decoder.registers := by
  cases hregister : ControlRegister.ofOpcode? opcode with
  | none => rw [writeRegister_of_none hregister]
  | some register =>
    rw [registers_writeRegister hregister]
    exact h register hregister

/-! ## Reading registers -/

/-- The strict policy rejects the image coding that is written. -/
def RejectsWrite (decoder : Decoder) (opcode : UInt8) (value : Word) : Prop :=
  opcode = 0xC0 ∧ decoder.settings.policy = .strict ∧ ¬ ImageCoding.Allowed value

instance (decoder : Decoder) (opcode : UInt8) (value : Word) :
    Decidable (decoder.RejectsWrite opcode value) :=
  inferInstanceAs (Decidable (_ ∧ _ ∧ _))

theorem isSome_readRegister (decoder : Decoder) (opcode : UInt8) :
    (decoder.readRegister opcode).isSome ↔ ReadsBack opcode := by
  have hnames := ControlRegister.isSome_ofOpcode? opcode
  rw [readRegister, ReadsBack]
  cases hregister : ControlRegister.ofOpcode? opcode with
  | none =>
    rw [hregister] at hnames
    simp [of_decide_eq_false hnames.symm]
  | some register =>
    rw [hregister] at hnames
    have hpattern : register = .cursorPattern ↔ opcode = 0xCF := by
      constructor
      · rintro rfl
        exact (ControlRegister.opcode_of_ofOpcode? hregister).2.symm
      · rintro rfl
        exact (Option.some.inj hregister).symm
    simp [RegisterFile.isSome_read?, of_decide_eq_true hnames.symm, hpattern]

/-- A register keeps the bits of the value that it has room for. -/
theorem readRegister_writeRegister_self (hreads : ReadsBack opcode)
    (htaken : ¬ decoder.RejectsWrite opcode value) :
    (decoder.writeRegister opcode value).readRegister opcode =
      some (value.lowBits (registerWidth opcode)) := by
  have hnames : (ControlRegister.ofOpcode? opcode).isSome := by
    rw [ControlRegister.isSome_ofOpcode?]
    exact decide_eq_true hreads.1
  obtain ⟨register, hregister⟩ := Option.isSome_iff_exists.mp hnames
  have hpattern : register ≠ .cursorPattern := ControlRegister.ne_of_opcode_ne hregister hreads.2
  rw [readRegister, hregister, Option.bind_some, registers_writeRegister hregister,
    ← ControlRegister.width_of_ofOpcode? hregister]
  apply RegisterFile.read?_store_self hpattern
  rintro rfl
  have hopcode : opcode = 0xC0 := (ControlRegister.opcode_of_ofOpcode? hregister).2.symm
  cases hpolicy : decoder.settings.policy with
  | permissive => exact .inl rfl
  | strict =>
    right
    rw [ImageCoding.allowed_low24_iff]
    by_contra hallowed
    exact htaken ⟨hopcode, hpolicy, hallowed⟩

theorem writeRegister_of_rejected (h : decoder.RejectsWrite opcode value) :
    decoder.writeRegister opcode value = decoder := by
  obtain ⟨rfl, hpolicy, hallowed⟩ := h
  have hregisters : (decoder.writeRegister 0xC0 value).registers = decoder.registers := by
    have hregister : ControlRegister.ofOpcode? 0xC0 = some .imageCoding := rfl
    rw [registers_writeRegister hregister, hpolicy]
    exact RegisterFile.setImageCoding_of_not_allowed (mt ImageCoding.allowed_low24_iff.mp hallowed)
  calc
    decoder.writeRegister 0xC0 value =
        { decoder with registers := (decoder.writeRegister 0xC0 value).registers } := rfl
    _ = decoder := by rw [hregisters]

theorem readRegister_writeRegister_of_ne {other : UInt8} (hne : other ≠ opcode)
    (hbank : ¬ (opcode = 0xC3 ∧ NamesPaletteEntry other)) :
    (decoder.writeRegister opcode value).readRegister other = decoder.readRegister other := by
  cases hother : ControlRegister.ofOpcode? other with
  | none => rw [readRegister, readRegister, hother, Option.bind_none, Option.bind_none]
  | some target =>
    rw [readRegister, readRegister, hother, Option.bind_some, Option.bind_some]
    refine writeRegister_keeps (·.read? target) fun register hregister ↦ ?_
    obtain ⟨hnamed, hopcode⟩ := ControlRegister.opcode_of_ofOpcode? hregister
    apply RegisterFile.read?_store_of_ne hnamed (ControlRegister.opcode_of_ofOpcode? hother).1
    · apply ControlRegister.ne_of_opcode_ne hother
      rwa [hopcode]
    · rintro rfl offset rfl
      exact hbank ⟨hopcode.symm, ControlRegister.namesPaletteEntry_of_ofOpcode? hother⟩

/-- The opcodes of the palette read the entries of a bank as soon as it is selected. -/
theorem readRegister_of_selected_bank {other : UInt8} (hother : NamesPaletteEntry other) :
    (decoder.writeRegister 0xC3 value).readRegister other =
      some (decoder.paletteEntry (value.field 0 2 * 64 + (other.toNat - 0x80))) := by
  have hselected : (value.low24.field 0 2).toUInt8.toNat = value.field 0 2 := by
    rw [Word.toNat_toUInt8_field _ 0 (by decide), Word.field_low24 value (by decide)]
  have hbank : (value.low24.field 0 2).toUInt8 < 4 := by
    rw [UInt8.lt_iff_toNat_lt, hselected]
    exact value.field_lt 0 2
  have hplace := Palette.indexInBank_of_namesPaletteEntry hbank hother
  rw [hselected] at hplace
  have hregister : ControlRegister.ofOpcode? 0xC3 = some .paletteBank := rfl
  rw [readRegister, ControlRegister.ofOpcode?_of_paletteEntry hother, Option.bind_some,
    registers_writeRegister hregister, ← hplace]
  rfl

/-! ## Tables -/

/-- The place in the palette of the entry that an opcode names. -/
def namedEntry (decoder : Decoder) (opcode : UInt8) : Nat :=
  decoder.registers.paletteBank.toNat * 64 + (opcode.toNat - 0x80)

theorem indexInBank_eq_namedEntry (hbank : decoder.registers.BankInRange)
    (hnames : NamesPaletteEntry opcode) :
    Palette.indexInBank decoder.registers.paletteBank (opcode - 0x80) = decoder.namedEntry opcode :=
  Palette.indexInBank_of_namesPaletteEntry hbank hnames

theorem namedEntry_lt (hbank : decoder.registers.BankInRange) (hnames : NamesPaletteEntry opcode) :
    decoder.namedEntry opcode < 256 := by
  have hbank : decoder.registers.paletteBank.toNat < 4 := UInt8.lt_iff_toNat_lt.mp hbank
  have hhigh : opcode.toNat < 0xC0 := UInt8.lt_iff_toNat_lt.mp hnames.2
  unfold namedEntry
  omega

theorem paletteEntry_writeRegister (hbank : decoder.registers.BankInRange) {index : Nat}
    (hindex : index < 256) : (decoder.writeRegister opcode value).paletteEntry index =
      if NamesPaletteEntry opcode ∧ index = decoder.namedEntry opcode then value.low24
      else decoder.paletteEntry index := by
  split
  · rename_i h
    obtain ⟨hnames, hwritten⟩ := h
    rw [hwritten, paletteEntry, registers_writeRegister (ControlRegister.ofOpcode?_of_paletteEntry hnames),
      ← indexInBank_eq_namedEntry hbank hnames]
    exact (Palette.read_write_of_eq _ _ rfl).trans value.low24_low24
  · rename_i h
    refine writeRegister_keeps (·.palette.read index) fun register hregister ↦ ?_
    apply RegisterFile.palette_store_of_ne
    rintro offset rfl
    have hnames := ControlRegister.namesPaletteEntry_of_ofOpcode? hregister
    rw [ControlRegister.ofOpcode?_of_paletteEntry hnames] at hregister
    cases hregister
    rw [indexInBank_eq_namedEntry hbank hnames]
    intro hsame
    have hplaces : index % 256 = decoder.namedEntry opcode % 256 := congrArg Fin.val hsame
    rw [Nat.mod_eq_of_lt hindex, Nat.mod_eq_of_lt (namedEntry_lt hbank hnames)] at hplaces
    exact h ⟨hnames, hplaces⟩

theorem cursorRow_writeRegister {row : Nat} (hrow : row < 16) :
    (decoder.writeRegister opcode value).cursorRow row =
      if opcode = 0xCF ∧ row = value.field 16 4 then value.toUInt16
      else decoder.cursorRow row := by
  have hpattern : (patternIndex row).val = row := Nat.mod_eq_of_lt hrow
  by_cases hopcode : opcode = 0xCF
  · subst hopcode
    have hselected : value.low24.field 16 4 = value.field 16 4 :=
      Word.field_low24 value (by decide)
    have hregister : ControlRegister.ofOpcode? 0xCF = some .cursorPattern := rfl
    rw [cursorRow, registers_writeRegister hregister]
    refine (Vector.getElem_set (value.low24.field_lt 16 4) (patternIndex row).isLt).trans ?_
    simp only [cursorRow, Fin.getElem_fin, hpattern, hselected, Word.toUInt16_low24, true_and,
      eq_comm (a := row)]
  · rw [if_neg fun h ↦ hopcode h.1]
    refine writeRegister_keeps (·.cursorPattern[patternIndex row]) fun register hregister ↦ ?_
    rw [RegisterFile.cursorPattern_store_of_ne (ControlRegister.ne_of_opcode_ne hregister hopcode)]

theorem matteCommand_writeRegister {index : Nat} (hindex : index < 8) :
    (decoder.writeRegister opcode value).matteCommand index =
      if opcode.toNat = 0xD0 + index then value.low24 else decoder.matteCommand index := by
  have hplace : (matteIndex index).val = index := Nat.mod_eq_of_lt hindex
  have hnames : ControlRegister.ofOpcode? opcode = some (.matteCommand (matteIndex index)) ↔
      opcode.toNat = 0xD0 + index := by
    rw [ControlRegister.ofOpcode?_eq_matteCommand_iff, hplace]
  split
  · rename_i hopcode
    rw [matteCommand, registers_writeRegister (hnames.mpr hopcode)]
    exact Vector.getElem_set_self (matteIndex index).isLt
  · rename_i hopcode
    refine writeRegister_keeps (·.matteCommands.get (matteIndex index)) fun register hregister ↦ ?_
    apply RegisterFile.matteCommands_store_of_ne
    rintro rfl
    exact hopcode (hnames.mp hregister)

theorem parameters_writeRegister (decoder : Decoder) (opcode : UInt8) (value : Word)
    (plane : Plane) : (decoder.writeRegister opcode value).registers.parameters.get plane =
      if opcode = holdOpcode plane then (decoder.registers.parameters.get plane).loadHold value
      else decoder.registers.parameters.get plane := by
  have hnamed : (ControlRegister.mosaicFactor plane).opcode = holdOpcode plane := by
    cases plane <;> rfl
  split
  · rename_i hopcode
    rw [← hnamed] at hopcode
    subst hopcode
    have hregister : ControlRegister.ofOpcode? (ControlRegister.mosaicFactor plane).opcode =
        some (.mosaicFactor plane) := ControlRegister.ofOpcode?_opcode rfl
    rw [registers_writeRegister hregister]
    simp only [RegisterFile.store, PerPlane.get_set_self, DisplayParameters.loadHold_low24]
  · rename_i hopcode
    refine writeRegister_keeps (·.parameters.get plane) fun register hregister ↦ ?_
    rw [← hnamed] at hopcode
    exact RegisterFile.parameters_store_of_ne (ControlRegister.ne_of_opcode_ne hregister hopcode)

/-! ## The whole write -/

/-- A decoder after the bus has written a value to the register of an opcode. -/
structure HasWritten (decoder : Decoder) (opcode : UInt8) (value : Word) (after : Decoder) :
    Prop where
  /-- The register holds what it has bits for. -/
  taken : ReadsBack opcode → ¬ decoder.RejectsWrite opcode value →
    after.readRegister opcode = some (value.lowBits (registerWidth opcode))
  rejected : decoder.RejectsWrite opcode value → after = decoder
  notNamed : ¬ NamesRegister opcode → after = decoder
  readable : ∀ other, (after.readRegister other).isSome ↔ ReadsBack other
  otherRegisters : ∀ other ≠ opcode, ¬ (opcode = 0xC3 ∧ NamesPaletteEntry other) →
    after.readRegister other = decoder.readRegister other
  /-- The opcodes of the palette follow the bank. -/
  selectedBank : opcode = 0xC3 → ∀ other, NamesPaletteEntry other →
    after.readRegister other =
      some (decoder.paletteEntry (value.field 0 2 * 64 + (other.toNat - 0x80)))
  palette : ∀ index < 256, after.paletteEntry index =
    if NamesPaletteEntry opcode ∧ index = decoder.namedEntry opcode then value.low24
    else decoder.paletteEntry index
  cursorPattern : ∀ row < 16, after.cursorRow row =
    if opcode = 0xCF ∧ row = value.field 16 4 then value.toUInt16 else decoder.cursorRow row
  matteCommands : ∀ index < 8, after.matteCommand index =
    if opcode.toNat = 0xD0 + index then value.low24 else decoder.matteCommand index
  parameters : ∀ plane, after.registers.parameters.get plane =
    if opcode = holdOpcode plane then (decoder.registers.parameters.get plane).loadHold value
    else decoder.registers.parameters.get plane
  system : after.registers.system = decoder.registers.system
  /-- Registers are all that the bus writes. -/
  rest : after = { decoder with registers := after.registers }

/-- In every reachable decoder, a register that the bus writes reads back as the bits that it keeps,
and the write leaves everything else as it is. -/
theorem writeRegister_reads_back {decoder : Decoder} (reachable : decoder.Reachable)
    (opcode : UInt8) (value : Word) :
    decoder.HasWritten opcode value (decoder.writeRegister opcode value) where
  taken := readRegister_writeRegister_self
  rejected := writeRegister_of_rejected
  notNamed hnames := by
    apply writeRegister_of_none
    rw [← Option.not_isSome_iff_eq_none, ControlRegister.isSome_ofOpcode?, decide_eq_true_eq]
    exact hnames
  readable := isSome_readRegister _
  otherRegisters _ := readRegister_writeRegister_of_ne
  selectedBank hopcode other hother := by
    rw [hopcode]
    exact readRegister_of_selected_bank hother
  palette _ := paletteEntry_writeRegister (reachable.registers RegisterFile.lasting_bankInRange)
  cursorPattern _ := cursorRow_writeRegister
  matteCommands _ := matteCommand_writeRegister
  parameters := parameters_writeRegister decoder opcode value
  system := writeRegister_keeps (·.system) fun _ _ ↦ RegisterFile.system_store _ _ _ _
  rest := rfl

/-- The first entry of bank 2 keeps its value when the bus writes the second, and keeps 24 bits of
it when it is written itself. A strict decoder does not take a wide palette beside direct color. -/
theorem writeRegister_reads_back_in_upper_bank :
    let decoder := (initial default).writeRegister 0xC3 2
    let after := decoder.writeRegister 0x81 0xFFABCDEF
    let strict := initial { (default : Settings) with policy := .strict }
    decoder.Reachable ∧ strict.Reachable ∧
      after.readRegister 0x81 = some 0xABCDEF ∧ after.paletteEntry 129 = 0xABCDEF ∧
      after.readRegister 0x80 = some 0 ∧ after.readRegister 0xC3 = some 2 ∧
      strict.writeRegister 0xC0 0x101 = strict := by
  intro decoder after strict
  have hreachable : decoder.Reachable := (Reachable.initial default).write (.register 0xC3 2)
  have hstrict : strict.Reachable := .initial _
  have hwritten := writeRegister_reads_back hreachable 0x81 0xFFABCDEF
  have hself : after.readRegister 0x81 = some 0xABCDEF := hwritten.taken (by decide) (by decide)
  have hentry : after.paletteEntry 129 = 0xABCDEF := (hwritten.palette 129 (by decide)).trans rfl
  have hfirst : after.readRegister 0x80 = some 0 :=
    (hwritten.otherRegisters 0x80 (by decide) (by decide)).trans rfl
  have hbank : after.readRegister 0xC3 = some 2 :=
    (hwritten.otherRegisters 0xC3 (by decide) (by decide)).trans rfl
  have hrejected := writeRegister_reads_back hstrict 0xC0 0x101
  exact ⟨hreachable, hstrict, hself, hentry, hfirst, hbank,
    hrejected.rejected ⟨rfl, rfl, by decide⟩⟩

end Decoder

end DualPlaneVideo
