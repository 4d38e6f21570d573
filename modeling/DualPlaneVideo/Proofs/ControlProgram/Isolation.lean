import DualPlaneVideo.Proofs.ControlProgram.Registers

/-!
# Isolation of the channels

What one channel holds alone, the programs of the other channel leave as it is: the registers that
it owns, its display parameters and its interrupt flag. The palette has no owner, but from channel B
only its upper half can be reached, whichever bank a program selects.
-/

namespace DualPlaneVideo

/-- The registers of the picture as a whole, which channel A holds. -/
structure PictureControl where
  imageCoding : Word
  transparency : Word
  frontPlane : Plane
  cursorPosition : Word
  cursorControl : Word
  cursorPattern : Vector UInt16 16
  backdrop : UInt8

/-- All that one channel holds alone. -/
structure Holdings where
  pictureControl : Option PictureControl
  transparentColor : Word
  maskColor : Word
  yuvSeed : Word
  mosaicFactor : Word
  contributionFactor : UInt8
  parameters : DisplayParameters
  interruptFlag : Bool

namespace RegisterFile

def pictureControl (registers : RegisterFile) : PictureControl where
  imageCoding := registers.imageCoding
  transparency := registers.transparency
  frontPlane := registers.frontPlane
  cursorPosition := registers.cursorPosition
  cursorControl := registers.cursorControl
  cursorPattern := registers.cursorPattern
  backdrop := registers.backdrop

def holdings (registers : RegisterFile) (plane : Plane) : Holdings where
  pictureControl :=
    match plane with
    | .a => some registers.pictureControl
    | .b => none
  transparentColor := registers.transparentColor.get plane
  maskColor := registers.maskColor.get plane
  yuvSeed := registers.yuvSeed.get plane
  mosaicFactor := registers.mosaicFactor.get plane
  contributionFactor := registers.contributionFactor.get plane
  parameters := registers.parameters.get plane
  interruptFlag := registers.system.interruptFlags.get plane

variable {registers after : RegisterFile} {plane channel : Plane} {policy : CodingPolicy}

/-- A register that has an owner reads what the owner holds. -/
theorem read?_of_holdings (h : after.holdings plane = registers.holdings plane)
    {register : ControlRegister} (howner : register.owner? = some plane) :
    after.read? register = registers.read? register := by
  simp only [holdings, Holdings.mk.injEq] at h
  obtain ⟨hpicture, htransparent, hmask, hseed, hmosaic, hcontribution, -, -⟩ := h
  cases register with
  | paletteEntry offset => cases howner
  | paletteBank => cases howner
  | matteCommand index => cases howner
  | imageCoding | transparency | planeOrder | cursorPosition | cursorControl | cursorPattern
  | backdrop =>
    cases howner
    simp only [Option.some.injEq, pictureControl, PictureControl.mk.injEq] at hpicture
    simp only [read?, hpicture]
  | transparentColor target | maskColor target | yuvSeed target | mosaicFactor target
  | contributionFactor target =>
    cases howner
    simp only [read?, htransparent, hmask, hseed, hmosaic, hcontribution]

theorem cursorPattern_of_holdings (h : after.holdings .a = registers.holdings .a) :
    after.cursorPattern = registers.cursorPattern :=
  congrArg PictureControl.cursorPattern
    (Option.some.inj (congrArg Holdings.pictureControl h))

/-- A store concerns the holdings of the register's owner and of nobody else. -/
theorem holdings_store {register : ControlRegister} (howner : register.owner? ≠ some plane)
    (value : Word) :
    (registers.store register value policy).holdings plane = registers.holdings plane := by
  have hne {target : Plane} (h : some target ≠ some plane) : plane ≠ target :=
    fun hplane ↦ h (congrArg some hplane.symm)
  cases register with
  | paletteEntry offset => cases plane <;> rfl
  | paletteBank => cases plane <;> rfl
  | matteCommand index => cases plane <;> rfl
  | imageCoding =>
    cases plane with
    | a => exact absurd rfl howner
    | b => exact store_imageCoding_keeps (·.holdings .b) fun _ ↦ rfl
  | transparency | planeOrder | cursorPosition | cursorControl | cursorPattern | backdrop =>
    cases plane with
    | a => exact absurd rfl howner
    | b => rfl
  | transparentColor target | maskColor target | yuvSeed target | mosaicFactor target
  | contributionFactor target =>
    simp only [holdings, store, pictureControl, PerPlane.get_set_of_ne _ (hne howner)]

/-- The other channel is admitted to no register that the plane's channel owns. -/
theorem owner?_ne_of_admits {register : ControlRegister} (hne : channel ≠ plane)
    (h : registers.admits channel register = true) : register.owner? ≠ some plane := by
  intro howner
  have hforeign : (plane == channel) = false := by
    cases plane <;> cases channel <;> simp_all
  cases register with
  | paletteEntry offset => cases howner
  | _ =>
    simp only [admits, howner, Option.all_some] at h
    rw [hforeign] at h
    cases h

theorem holdings_load (hne : channel ≠ plane) (opcode : UInt8) (value : Word) :
    (registers.load channel opcode value policy).holdings plane = registers.holdings plane := by
  unfold load
  split
  · rfl
  · split
    · rename_i hadmits
      exact holdings_store (owner?_ne_of_admits hne hadmits) value
    · rfl

theorem keptBy_holdings (hne : channel ≠ plane) (policy : CodingPolicy) (held : Holdings) :
    KeptBy channel policy fun registers ↦ registers.holdings plane = held where
  load registers opcode value _ h := by rw [holdings_load hne, h]
  parameters registers operand loaded _ h := by
    rw [← h]
    simp only [holdings, pictureControl, PerPlane.get_set_of_ne _ hne.symm]
  interrupt registers h := by
    rw [← h]
    simp only [holdings, pictureControl, PerPlane.get_set_of_ne _ hne.symm]

/-- The system registers without the interrupt flags, which is all that only the bus writes. -/
def busRegisters (registers : RegisterFile) : SystemRegisters :=
  { registers.system with interruptFlags := .both false }

theorem keptBy_busRegisters (channel : Plane) (policy : CodingPolicy) (system : SystemRegisters) :
    KeptBy channel policy fun registers ↦ registers.busRegisters = system where
  load registers opcode value _ h := by rw [busRegisters, system_load, ← h, busRegisters]
  parameters _ _ _ _ h := h
  interrupt _ h := h

end RegisterFile

/-! ## The palette -/

/-- The two upper banks fill the upper half of the table. -/
theorem Palette.indexInBank_of_upper {bank : UInt8} (offset : UInt8) (hlow : 2 ≤ bank)
    (hhigh : bank < 4) :
    128 ≤ indexInBank bank offset ∧ indexInBank bank offset < 256 := by
  have hoffset := bitField_lt offset.toNat 0 6
  have hbank : bitField bank.toNat 0 2 = bank.toNat := by
    apply Nat.mod_eq_of_lt
    exact UInt8.lt_iff_toNat_lt.mp hhigh
  have hlow : 2 ≤ bank.toNat := UInt8.le_iff_toNat_le.mp hlow
  have hhigh : bank.toNat < 4 := UInt8.lt_iff_toNat_lt.mp hhigh
  unfold indexInBank
  rw [hbank]
  change bitField offset.toNat 0 6 < 64 at hoffset
  omega

namespace RegisterFile

variable {registers : RegisterFile} {policy : CodingPolicy}

/-- The number in the palette bank register names one of the four banks. -/
def BankInRange (registers : RegisterFile) : Prop := registers.paletteBank < 4

theorem BankInRange.store (h : registers.BankInRange) (register : ControlRegister) (value : Word)
    (policy : CodingPolicy) : (registers.store register value policy).BankInRange := by
  cases register with
  | paletteBank =>
    have hfield : value.field 0 2 < 4 := value.field_lt 0 2
    change (value.field 0 2).toUInt8 < 4
    rw [UInt8.lt_iff_toNat_lt, Nat.toUInt8, UInt8.toNat_ofNat', Nat.mod_eq_of_lt (by omega)]
    exact hfield
  | imageCoding =>
    simp only [RegisterFile.store, setImageCoding]
    split <;> exact h
  | _ => exact h

theorem BankInRange.load (h : registers.BankInRange) (channel : Plane) (opcode : UInt8)
    (value : Word) (policy : CodingPolicy) :
    (registers.load channel opcode value policy).BankInRange := by
  unfold RegisterFile.load
  split
  · exact h
  · split
    · exact h.store _ value policy
    · exact h

/-- The bank is in range, and the lower half of the palette is that of `palette`. -/
structure HasLowerHalf (palette : Palette) (registers : RegisterFile) : Prop where
  bankInRange : registers.BankInRange
  read_eq : ∀ index < 128, registers.palette.read index = palette.read index

theorem HasLowerHalf.load_of_b {palette : Palette} (h : registers.HasLowerHalf palette)
    (opcode : UInt8) (value : Word) (policy : CodingPolicy) :
    (registers.load .b opcode value policy).HasLowerHalf palette := by
  refine ⟨h.bankInRange.load .b opcode value policy, ?_⟩
  intro index hindex
  rw [← h.read_eq index hindex]
  unfold RegisterFile.load
  split
  · rfl
  · rename_i register _
    split
    · rename_i hadmits
      cases register with
      | paletteEntry offset =>
        -- The bank is the one that the registers hold now, whichever channel has set it.
        have hlow : 2 ≤ registers.paletteBank := by simpa [admits] using hadmits
        have hupper := Palette.indexInBank_of_upper offset hlow h.bankInRange
        apply Palette.read_write_of_ne
        rw [Palette.entry, Palette.entry, ne_eq, Fin.mk.injEq]
        omega
      | imageCoding => exact store_imageCoding_keeps (·.palette.read index) fun _ ↦ rfl
      | _ => rfl
    · rfl

theorem keptBy_hasLowerHalf (policy : CodingPolicy) (palette : Palette) :
    KeptBy .b policy (HasLowerHalf palette) where
  load _ opcode value _ h := h.load_of_b opcode value policy
  parameters _ _ _ _ h := ⟨h.bankInRange, h.read_eq⟩
  interrupt _ h := ⟨h.bankInRange, h.read_eq⟩

theorem keptBy_bankInRange (channel : Plane) (policy : CodingPolicy) :
    KeptBy channel policy BankInRange where
  load _ opcode value _ h := h.load channel opcode value policy
  parameters _ _ _ _ h := h
  interrupt _ h := h

end RegisterFile

/-! ## A channel without a turn -/

namespace Schedule

variable {memory : Memory} {settings : Settings} {registers : RegisterFile} {plane : Plane}
  {areas : PerPlane DisplayArea} {property : RegisterFile → Prop}

/-- If the plane's own channel leaves the registers alone, then all depends on the other one. -/
theorem runChannels_keeps_of_idle (plane : Plane) (property : RegisterFile → Prop)
    {turn : RegisterFile → Plane → DisplayArea → ChannelResult}
    (hidle : ∀ registers area, property registers →
      (turn registers plane area).registers = registers)
    (hother : ∀ registers area, property registers →
      property (turn registers plane.other area).registers)
    (hregisters : property registers) : property (runChannels turn registers areas).registers := by
  refine runChannels_keeps ?_ hregisters
  intro current channel area hcurrent
  have hchannel : channel = plane ∨ channel = plane.other := by
    cases channel <;> cases plane <;> decide
  rcases hchannel with rfl | rfl
  · rw [hidle current area hcurrent]
    exact hcurrent
  · exact hother current area hcurrent

theorem runInitialAreas_keeps_of_disabled
    (h : RegisterFile.KeptBy plane.other settings.policy property)
    (hdisabled : registers.system.initialAreaEnabled plane = false)
    (hregisters : property registers) :
    property (runInitialAreas memory settings registers areas).registers := by
  -- The programs of the other channel cannot give the plane's channel its turn back.
  have hboth := h.and
    (RegisterFile.keptBy_busRegisters plane.other settings.policy registers.busRegisters)
  refine (runChannels_keeps_of_idle plane (fun current ↦ property current ∧
    current.busRegisters = registers.busRegisters) ?_ ?_ ⟨hregisters, rfl⟩).1
  · intro current area hcurrent
    have hidle : current.system.initialAreaEnabled plane = false := by
      calc
        current.system.initialAreaEnabled plane =
            current.busRegisters.initialAreaEnabled plane := rfl
        _ = registers.busRegisters.initialAreaEnabled plane := by rw [hcurrent.2]
        _ = false := hdisabled
    rw [runInitial_of_disabled hidle]
  · intro current area hcurrent
    exact runInitial_keeps hboth hcurrent

theorem runDisplayAreas_keeps_of_disabled
    (h : RegisterFile.KeptBy plane.other settings.policy property)
    (hdisabled : registers.system.displayAreaEnabled plane = false)
    (hregisters : property registers) :
    property (runDisplayAreas memory settings registers areas).registers := by
  have hboth := h.and
    (RegisterFile.keptBy_busRegisters plane.other settings.policy registers.busRegisters)
  refine (runChannels_keeps_of_idle plane (fun current ↦ property current ∧
    current.busRegisters = registers.busRegisters) ?_ ?_ ⟨hregisters, rfl⟩).1
  · intro current area hcurrent
    have hidle : current.system.displayAreaEnabled plane = false := by
      calc
        current.system.displayAreaEnabled plane =
            current.busRegisters.displayAreaEnabled plane := rfl
        _ = registers.busRegisters.displayAreaEnabled plane := by rw [hcurrent.2]
        _ = false := hdisabled
    rw [runDisplay_of_disabled hidle]
  · intro current area hcurrent
    exact runDisplay_keeps hboth hcurrent

end Schedule

end DualPlaneVideo
