import DualPlaneVideo.Proofs.ControlProgram.StoredLoads
import DualPlaneVideo.Proofs.Decoder.Isolation

/-!
# Loads from a program and from the bus

A register takes a value the same way from the bus and from the initial program of a channel. So a
frame that starts with a program of loads leaves the registers that the same loads would leave if the
bus wrote them one after the other: in either case a rejected coding, a change of the palette bank
between two entries or an opcode that names no register has the same effect on what follows.
-/

namespace DualPlaneVideo

/-- The opcodes, other than those of the palette, whose registers both channels may load. -/
def sharedOpcodes : List UInt8 := [0xC3, 0xD0, 0xD1, 0xD2, 0xD3, 0xD4, 0xD5, 0xD6, 0xD7]

/-- The channel's program loads the register as the bus would. The bus takes the part of channel A
wherever it may, which matters for the palette. -/
def RegisterLoad.IsFor (load : RegisterLoad) : Plane → Prop
  | .a => load.opcode ∉ ownedOpcodes .b
  | .b => load.opcode ∈ ownedOpcodes .b ∨ load.opcode ∈ sharedOpcodes

instance (load : RegisterLoad) (channel : Plane) : Decidable (load.IsFor channel) :=
  match channel with
  | .a => inferInstanceAs (Decidable (_ ∉ _))
  | .b => inferInstanceAs (Decidable (_ ∨ _))

namespace Decoder

/-- Channel B owns no other registers. -/
theorem busChannel_of_not_mem {opcode : UInt8} (h : opcode ∉ ownedOpcodes .b) :
    busChannel opcode = .a := by
  have hall : ∀ value : Fin 256, UInt8.ofFin value ∉ ownedOpcodes .b →
      busChannel (UInt8.ofFin value) = .a := by
    decide +kernel
  exact hall opcode.toFin h

theorem load_of_shared (registers : RegisterFile) {opcode : UInt8} (h : opcode ∈ sharedOpcodes)
    (value : Word) (policy : CodingPolicy) (channel other : Plane) :
    registers.load channel opcode value policy = registers.load other opcode value policy := by
  have hregister : ∀ opcode ∈ sharedOpcodes,
      ControlRegister.ofOpcode? opcode = some .paletteBank ∨
        ∃ index, ControlRegister.ofOpcode? opcode = some (.matteCommand index) := by
    decide +kernel
  rcases hregister opcode h with hbank | ⟨index, hmatte⟩
  · simp only [RegisterFile.load, hbank]
    rfl
  · simp only [RegisterFile.load, hmatte]
    rfl

theorem load_busChannel {load : RegisterLoad} {channel : Plane} (h : load.IsFor channel)
    (registers : RegisterFile) (value : Word) (policy : CodingPolicy) :
    registers.load (busChannel load.opcode) load.opcode value policy =
      registers.load channel load.opcode value policy := by
  cases channel with
  | a => rw [busChannel_of_not_mem h]
  | b =>
    rcases h with howned | hshared
    · have hb : ∀ opcode ∈ ownedOpcodes .b, busChannel opcode = .b := by decide +kernel
      rw [hb _ howned]
    · exact load_of_shared registers hshared value policy _ _

/-- The decoder after the bus has written the loads in their order. -/
def writeAll (decoder : Decoder) (loads : List RegisterLoad) : Decoder :=
  loads.foldl (fun decoder load ↦ decoder.writeRegister load.opcode load.value) decoder

theorem registers_writeAll {channel : Plane} {loads : List RegisterLoad} (decoder : Decoder)
    (hloads : ∀ load ∈ loads, load.IsInstruction ∧ load.IsFor channel) :
    (decoder.writeAll loads).registers =
      decoder.registers.loadAll channel decoder.settings.policy loads := by
  induction loads generalizing decoder with
  | nil => rfl
  | cons load rest ih =>
    obtain ⟨hinstruction, hfor⟩ := hloads load List.mem_cons_self
    have hvalue : load.value.low24 = load.value := by
      rw [← UInt32.toNat_inj, Word.toNat_low24]
      exact Nat.mod_eq_of_lt hinstruction.value
    have hwritten : (decoder.writeRegister load.opcode load.value).registers =
        decoder.registers.load channel load.opcode load.value decoder.settings.policy := by
      rw [writeRegister, hvalue]
      exact load_busChannel hfor decoder.registers load.value decoder.settings.policy
    have hrest := ih (decoder.writeRegister load.opcode load.value)
      fun one hone ↦ hloads one (List.mem_cons_of_mem _ hone)
    rw [hwritten] at hrest
    exact hrest

/-- A frame that starts with a program of register loads on one channel succeeds, raises nothing and
leaves all registers as the bus would have by the same writes. The program and the stop instruction
behind it may fill the whole of memory, and the budget need not cover the stop instruction. -/
theorem enterFrame_loads_like_bus (decoder : Decoder) (ram : VideoRam) (channel : Plane)
    (loads : List RegisterLoad)
    (hloads : ∀ load ∈ loads, load.IsInstruction ∧ load.IsFor channel)
    (hlength : loads.length < 0x40000)
    (hbudget : loads.length ≤ decoder.settings.initialBudget.toNat)
    (henabled : ∀ plane, decoder.registers.system.initialAreaEnabled plane = true ↔
      plane = channel) :
    let stored := ram.load (Schedule.initialAddress channel)
      ((loadProgram loads).flatMap Word.bytes)
    let step := decoder.enterFrame stored.memory
    step.result = .ok (.both none) ∧ step.raised = [] ∧
      step.decoder.registers = (decoder.writeAll loads).registers := by
  intro stored step
  have hprogram : stored.memory.Holds (Schedule.initialAddress channel).toNat
      (loadProgram loads) := by
    apply VideoRam.holds_load
    rw [loadProgram, List.length_append, List.length_map, List.length_singleton, ramSize]
    omega
  have hrun : Schedule.runInitialAreas stored.memory decoder.latchFormat.settings
      decoder.latchFormat.registers decoder.latchFormat.areas =
        ⟨decoder.registers.loadAll channel decoder.settings.policy loads,
          decoder.areas.map fun area ↦ { area with halted := false }, .ok (.both .idle)⟩ :=
    Schedule.runInitialAreas_loads (fun load hload ↦ (hloads load hload).1) hprogram hbudget
      henabled decoder.areas
  rw [registers_writeAll decoder hloads]
  simp only [step, enterFrame, hrun]
  exact ⟨rfl, rfl, rfl⟩

/-- A decoder that rejects disallowed codings and has an initial budget of seven instructions; the
initial area of one channel is enabled. -/
def withInitialArea (channel : Plane) : Decoder :=
  let settings := { Settings.standard with policy := .strict, initialBudget := 7 }
  let system :=
    { SystemRegisters.zeroed with
      displayCommand := (PerPlane.both 0).set channel 0x0200 }
  (initial settings).setSystem system

/-- A coding that is rejected, two entries of different palette banks and an opcode without a
register. -/
def loadsOfA : List RegisterLoad :=
  [⟨0xC0, 0x301⟩, ⟨0xC3, 1⟩, ⟨0x80, 0x112233⟩, ⟨0xC3, 2⟩, ⟨0x80, 0x445566⟩, ⟨0xFF, 7⟩, ⟨0xC4, 9⟩]

def loadsOfB : List RegisterLoad := [⟨0xC3, 3⟩, ⟨0xC6, 0xABCDEF⟩, ⟨0xD7, 0x123456⟩]

theorem initialAreaEnabled_withInitialArea (channel plane : Plane) :
    (withInitialArea channel).registers.system.initialAreaEnabled plane = true ↔
      plane = channel := by
  cases channel <;> cases plane <;> decide

/-- The start of a frame that finds the channel's loads in an otherwise empty memory. -/
def startWithLoads (channel : Plane) (loads : List RegisterLoad) :
    DecoderStep (PerPlane (Option Word)) :=
  let stored := VideoRam.zeroed.load (Schedule.initialAddress channel)
    ((loadProgram loads).flatMap Word.bytes)
  (withInitialArea channel).enterFrame stored.memory

/-- The program of channel A uses up the budget, and that of channel B stops before. -/
theorem enterFrame_loads_like_bus_within_budget :
    ((startWithLoads .a loadsOfA).result = .ok (.both none) ∧
      (startWithLoads .a loadsOfA).decoder.registers.imageCoding = 0 ∧
      (startWithLoads .a loadsOfA).decoder.registers.palette.read 64 = 0x112233 ∧
      (startWithLoads .a loadsOfA).decoder.registers.palette.read 128 = 0x445566 ∧
      (startWithLoads .a loadsOfA).decoder.registers.transparentColor.a = 9) ∧
    (startWithLoads .b loadsOfB).result = .ok (.both none) ∧
      (startWithLoads .b loadsOfB).decoder.registers.paletteBank = 3 ∧
      (startWithLoads .b loadsOfB).decoder.registers.transparentColor.b = 0xABCDEF ∧
      (startWithLoads .b loadsOfB).decoder.registers.matteCommands[7] = 0x123456 := by
  obtain ⟨hresultA, -, hA⟩ := enterFrame_loads_like_bus (withInitialArea .a) .zeroed .a loadsOfA
    (by decide) (by decide) (by decide) (initialAreaEnabled_withInitialArea .a)
  obtain ⟨hresultB, -, hB⟩ := enterFrame_loads_like_bus (withInitialArea .b) .zeroed .b loadsOfB
    (by decide) (by decide) (by decide) (initialAreaEnabled_withInitialArea .b)
  rw [← startWithLoads] at hresultA hA hresultB hB
  constructor
  · rw [hA]
    exact ⟨hresultA, by decide +kernel, by decide +kernel, by decide +kernel, by decide +kernel⟩
  · rw [hB]
    exact ⟨hresultB, by decide +kernel, by decide +kernel, by decide +kernel⟩

end Decoder

end DualPlaneVideo
