import DualPlaneVideo.Proofs.ControlProgram.Registers
import DualPlaneVideo.Proofs.StoredWords

/-!
# Stored programs of register loads

A program of register loads that stands in memory, with a stop instruction behind it, carries out the
loads in their order and does nothing else. It ends by itself or, if the budget covers no more than
the loads, by the budget.
-/

namespace DualPlaneVideo

/-- The load of a value into the register of an opcode. -/
structure RegisterLoad where
  opcode : UInt8
  value : Word
  deriving DecidableEq

namespace RegisterLoad

/-- An instruction can express the load: its opcode names a register, and its value has 24 bits. -/
structure IsInstruction (load : RegisterLoad) : Prop where
  opcode : 0x80 ≤ load.opcode
  value : load.value.toNat < 0x1000000

instance (load : RegisterLoad) : Decidable load.IsInstruction :=
  decidable_of_iff (0x80 ≤ load.opcode ∧ load.value.toNat < 0x1000000)
    ⟨fun h ↦ ⟨h.1, h.2⟩, fun h ↦ ⟨h.opcode, h.value⟩⟩

/-- The instruction word of the load. -/
def word (load : RegisterLoad) : Word := (load.opcode.toUInt32 <<< 24) ||| load.value

variable {load : RegisterLoad}

theorem toNat_word (h : load.IsInstruction) :
    load.word.toNat = load.opcode.toNat * 0x1000000 + load.value.toNat := by
  have hopcode := load.opcode.toNat_lt
  have hvalue : load.value.toNat < 2 ^ 24 := h.value
  have hshifted : (load.opcode.toUInt32 <<< 24).toNat = load.opcode.toNat <<< 24 := by
    rw [UInt32.toNat_shiftLeft, UInt8.toNat_toUInt32]
    apply Nat.mod_eq_of_lt
    change load.opcode.toNat <<< 24 < 2 ^ 32
    rw [Nat.shiftLeft_eq]
    omega
  rw [word, UInt32.toNat_or, hshifted, ← Nat.shiftLeft_add_eq_or_of_lt hvalue, Nat.shiftLeft_eq]

theorem ofWord_word (h : load.IsInstruction) :
    Instruction.ofWord load.word = .loadRegister load.opcode load.value := by
  have hword := toNat_word h
  have hvalue := h.value
  have hopcode : 0x80 ≤ load.opcode.toNat := UInt8.le_iff_toNat_le.mp h.opcode
  have hlt := load.opcode.toNat_lt
  have hoperand : load.word.low24 = load.value := by
    rw [← UInt32.toNat_inj, Word.toNat_low24, hword]
    omega
  have hkind : 8 ≤ load.word.field 28 4 := by
    rw [Word.field, bitField, hword, Nat.shiftRight_eq_div_pow, Nat.one_shiftLeft]
    omega
  have hregister : (load.word.field 24 8).toUInt8 = load.opcode := by
    have hfield : load.word.field 24 8 = load.opcode.toNat := by
      rw [Word.field, bitField, hword, Nat.shiftRight_eq_div_pow, Nat.one_shiftLeft]
      omega
    rw [hfield]
    exact UInt8.ofNat_toNat
  unfold Instruction.ofWord
  dsimp only
  rw [hoperand, hregister]
  split
  all_goals first | rfl | omega

end RegisterLoad

/-- The words of a program of loads, and a stop instruction. -/
def loadProgram (loads : List RegisterLoad) : List Word := loads.map RegisterLoad.word ++ [0]

namespace RegisterFile

/-- The registers after the channel has carried out the loads. -/
def loadAll (registers : RegisterFile) (channel : Plane) (policy : CodingPolicy)
    (loads : List RegisterLoad) : RegisterFile :=
  loads.foldl (fun registers load ↦ registers.load channel load.opcode load.value policy) registers

theorem system_loadAll (registers : RegisterFile) (channel : Plane) (policy : CodingPolicy)
    (loads : List RegisterLoad) :
    (registers.loadAll channel policy loads).system = registers.system := by
  induction loads generalizing registers with
  | nil => rfl
  | cons load rest ih =>
    calc
      (registers.loadAll channel policy (load :: rest)).system =
          (registers.load channel load.opcode load.value policy).system := ih _
      _ = registers.system := system_load registers channel load.opcode load.value policy

end RegisterFile

variable {memory : Memory} {channel : Plane} {position : Nat} {loads : List RegisterLoad}

/-- A run of the program changes registers only, by the loads in their order. -/
theorem ProgramRun.run_loads (policy : CodingPolicy) {budget : Nat} (state : ProgramRun)
    (hloads : ∀ load ∈ loads, load.IsInstruction)
    (hprogram : memory.Holds position (loadProgram loads)) (hbudget : loads.length ≤ budget) :
    ∃ ending, (ending = .stopped ∨ ending = .exhausted) ∧
      run memory channel policy budget (addressAt position) state =
        ({ state with registers := state.registers.loadAll channel policy loads }, ending) := by
  induction loads generalizing position budget state with
  | nil =>
    obtain ⟨hstop, -⟩ := hprogram
    cases budget with
    | zero => exact ⟨.exhausted, .inr rfl, rfl⟩
    | succ budget =>
      refine ⟨.stopped, .inl rfl, ?_⟩
      simp only [run, step, fetch, hstop]
      rfl
  | cons load rest ih =>
    obtain ⟨hword, hrest⟩ := hprogram
    obtain ⟨budget, rfl⟩ : ∃ left, budget = left + 1 :=
      Nat.exists_eq_add_one.mpr (Nat.lt_of_lt_of_le (Nat.succ_pos _) hbudget)
    have hload := hloads load List.mem_cons_self
    have hnext : wrapAddress (addressAt position + 4) = addressAt (position + 4) := by
      calc
        wrapAddress (addressAt position + 4) = addressAt ((addressAt position).toNat + 4) :=
          wrapAddress_add _ 4
        _ = addressAt (position + 4) := addressAt_add position 4
    obtain ⟨ending, hending, hrun⟩ := ih
      { state with registers := state.registers.load channel load.opcode load.value policy }
      (fun one hone ↦ hloads one (List.mem_cons_of_mem _ hone)) hrest
      (Nat.le_of_succ_le_succ hbudget)
    refine ⟨ending, hending, ?_⟩
    unfold run
    simp only [step, fetch, hword, RegisterLoad.ofWord_word hload, execute, hnext]
    exact hrun

/-- The initial control area of an enabled channel, with such a program in it. -/
theorem Schedule.runInitial_loads {settings : Settings} {registers : RegisterFile}
    (hloads : ∀ load ∈ loads, load.IsInstruction)
    (hprogram : memory.Holds (initialAddress channel).toNat (loadProgram loads))
    (hbudget : loads.length ≤ settings.initialBudget.toNat)
    (henabled : registers.system.initialAreaEnabled channel = true) (area : DisplayArea) :
    runInitial memory settings registers channel area =
      ⟨registers.loadAll channel settings.policy loads, { area with halted := false },
        .ok .idle⟩ := by
  have hstart : addressAt (initialAddress channel).toNat = initialAddress channel := by
    cases channel <;> rfl
  obtain ⟨ending, hending, hrun⟩ := ProgramRun.run_loads settings.policy (.start registers)
    hloads hprogram hbudget
  rw [hstart] at hrun
  rw [runInitial, if_pos henabled, hrun]
  rcases hending with rfl | rfl <;> rfl

/-- While one channel carries out the program, the other one has nothing to run. -/
theorem Schedule.runInitialAreas_loads {settings : Settings} {registers : RegisterFile}
    (hloads : ∀ load ∈ loads, load.IsInstruction)
    (hprogram : memory.Holds (initialAddress channel).toNat (loadProgram loads))
    (hbudget : loads.length ≤ settings.initialBudget.toNat)
    (henabled : ∀ plane, registers.system.initialAreaEnabled plane = true ↔ plane = channel)
    (areas : PerPlane DisplayArea) :
    runInitialAreas memory settings registers areas =
      ⟨registers.loadAll channel settings.policy loads,
        areas.map fun area ↦ { area with halted := false }, .ok (.both .idle)⟩ := by
  have hown := runInitial_loads hloads hprogram hbudget ((henabled channel).mpr rfl)
  have hother (found : RegisterFile) (hsystem : found.system = registers.system)
      {plane : Plane} (hplane : plane ≠ channel) (area : DisplayArea) :
      runInitial memory settings found plane area =
        ⟨found, { area with halted := false }, .ok .idle⟩ := by
    apply runInitial_of_disabled
    rw [hsystem]
    exact Bool.eq_false_iff.mpr fun hplaneEnabled ↦ hplane ((henabled plane).mp hplaneEnabled)
  unfold runInitialAreas runChannels
  cases channel with
  | a =>
    have hsecond := hother _ (RegisterFile.system_loadAll registers .a settings.policy loads)
      (show Plane.b ≠ .a by decide) areas.b
    simp only [hown, hsecond]
    rfl
  | b =>
    have hfirst := hother registers rfl (show Plane.a ≠ .b by decide) areas.a
    simp only [hfirst, hown]
    rfl

end DualPlaneVideo
