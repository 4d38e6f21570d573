import DualPlaneVideo.Proofs.ControlProgram.Isolation
import DualPlaneVideo.Proofs.Decoder.Registers

/-!
# Isolation of the channels in a decoder

The bank that selects palette entries stays in range in every decoder. So while channel A has no
turn, the programs of channel B leave the lower half of the palette as it is, together with all that
channel A holds; and while channel B has no turn, what it holds stays as it is.
-/

namespace DualPlaneVideo

theorem RegisterFile.lasting_bankInRange : Lasting BankInRange where
  initial := by
    unfold BankInRange
    decide
  keptBy := keptBy_bankInRange
  paletteEntry _ _ _ h := h
  matteCommand _ _ _ h := h
  cursorRow _ _ _ h := h
  system _ _ h := h
  matte _ _ h := h
  reset _ h := h

/-- The opcodes of the registers that a channel owns and that read back. -/
def ownedOpcodes : Plane → List UInt8
  | .a => [0xC0, 0xC1, 0xC2, 0xC4, 0xC7, 0xCA, 0xCD, 0xCE, 0xD8, 0xD9, 0xDB]
  | .b => [0xC6, 0xC9, 0xCB, 0xDA, 0xDC]

theorem owner?_of_mem_ownedOpcodes (plane : Plane) : ∀ opcode ∈ ownedOpcodes plane,
    ∃ register, ControlRegister.ofOpcode? opcode = some register ∧
      register.owner? = some plane := by
  have howned : ∀ plane, ∀ opcode ∈ ownedOpcodes plane,
      (ControlRegister.ofOpcode? opcode).bind ControlRegister.owner? = some plane := by
    decide +kernel
  intro opcode hopcode
  exact Option.bind_eq_some_iff.mp (howned plane opcode hopcode)

/-- While a channel has no turn, the other channel's programs change none of the registers that it
owns, nor its display parameters with pixel hold, its interrupt flag, the system registers of the
bus and, for channel A, the cursor pattern and the lower half of the palette, however they end. The
palette bank is in range in every reachable decoder. -/
theorem programs_keep_foreign_registers :
    (∀ (memory : Memory) (settings : Settings) (registers after : RegisterFile)
      (areas : PerPlane DisplayArea) (plane : Plane),
      registers.system.initialAreaEnabled plane = false ∧
          after = (Schedule.runInitialAreas memory settings registers areas).registers ∨
        registers.system.displayAreaEnabled plane = false ∧
          after = (Schedule.runDisplayAreas memory settings registers areas).registers →
      (∀ opcode ∈ ownedOpcodes plane, (ControlRegister.ofOpcode? opcode).bind after.read? =
        (ControlRegister.ofOpcode? opcode).bind registers.read?) ∧
      after.parameters.get plane = registers.parameters.get plane ∧
      after.system.interruptFlags.get plane = registers.system.interruptFlags.get plane ∧
      after.system.displayCommand = registers.system.displayCommand ∧
      after.system.controlStatus = registers.system.controlStatus ∧
      after.system.displayDecoder = registers.system.displayDecoder ∧
      (plane = .a → after.cursorPattern = registers.cursorPattern ∧
        (registers.BankInRange →
          ∀ index < 128, after.palette.read index = registers.palette.read index))) ∧
    ∀ decoder : Decoder, decoder.Reachable → decoder.registers.BankInRange := by
  refine ⟨?_, fun decoder reachable ↦ reachable.registers RegisterFile.lasting_bankInRange⟩
  intro memory settings registers after areas plane hran
  have hkeeps {property : RegisterFile → Prop}
      (h : RegisterFile.KeptBy plane.other settings.policy property)
      (hregisters : property registers) : property after := by
    rcases hran with ⟨hdisabled, rfl⟩ | ⟨hdisabled, rfl⟩
    · exact Schedule.runInitialAreas_keeps_of_disabled h hdisabled hregisters
    · exact Schedule.runDisplayAreas_keeps_of_disabled h hdisabled hregisters
  have hheld : after.holdings plane = registers.holdings plane :=
    hkeeps (RegisterFile.keptBy_holdings (Plane.other_ne plane) _ _) rfl
  have hbus : after.busRegisters = registers.busRegisters :=
    hkeeps (RegisterFile.keptBy_busRegisters _ _ _) rfl
  refine ⟨?_, congrArg Holdings.parameters hheld, congrArg Holdings.interruptFlag hheld,
    (congrArg SystemRegisters.displayCommand hbus :),
    (congrArg SystemRegisters.controlStatus hbus :),
    (congrArg SystemRegisters.displayDecoder hbus :), ?_⟩
  · intro opcode hopcode
    obtain ⟨register, hregister, howner⟩ := owner?_of_mem_ownedOpcodes plane opcode hopcode
    rw [hregister]
    exact RegisterFile.read?_of_holdings hheld howner
  · rintro rfl
    refine ⟨RegisterFile.cursorPattern_of_holdings hheld, ?_⟩
    intro hbank
    have hlower : after.HasLowerHalf registers.palette :=
      hkeeps (RegisterFile.keptBy_hasLowerHalf _ _) ⟨hbank, fun _ _ ↦ rfl⟩
    exact hlower.read_eq

/-- Channel B loads an entry of bank 2, goes back to bank 0, tries an entry there and the image
coding, asks for an interrupt and selects the reserved pixel depth. -/
def trespassingProgram : Memory := fun address ↦
  match address.toNat with
  | 0x80400 => 0xC3
  | 0x80403 => 2
  | 0x80404 => 0x85
  | 0x80407 => 0xFF
  | 0x80408 => 0xC3
  | 0x8040C => 0x85
  | 0x8040D => 0x12
  | 0x80410 => 0xC0
  | 0x80413 => 1
  | 0x80414 => 0x60
  | 0x80418 => 0x70
  | 0x8041A => 3
  | _ => 0

theorem programs_keep_foreign_registers_trespassing :
    let registers := ((Decoder.initial default).write (.system 0x02 0x0200)).registers
    let ran := Schedule.runInitialAreas trespassingProgram default registers (.both default)
    ran.requests = .error (.reservedPixelDepth .b 3) ∧
      ran.registers.system.interruptFlags = ⟨false, true⟩ ∧
      ran.registers.palette.read 133 = 0xFF ∧ ran.registers.palette.read 5 = 0 ∧
      ran.registers.read? .imageCoding = some 0 := by
  intro registers ran
  obtain ⟨hprograms, hreachable⟩ := programs_keep_foreign_registers
  have hbank := hreachable _ ((Decoder.Reachable.initial default).write (.system 0x02 0x0200))
  obtain ⟨howned, -, hflag, -, -, -, hpicture⟩ := hprograms trespassingProgram default registers
    ran.registers (.both default) .a (.inl ⟨by decide +kernel, rfl⟩)
  have hlower := (hpicture rfl).2 hbank 5 (by decide)
  refine ⟨by decide +kernel, ?_, by decide +kernel, hlower, howned 0xC0 (by decide)⟩
  exact PerPlane.ext hflag (by decide +kernel)

end DualPlaneVideo
