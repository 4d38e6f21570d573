import DualPlaneVideo.Proofs.ControlProgram.DisplayTurn
import Mathlib.Tactic.Common

/-!
# The budget of a control program

The budget only cuts off runs that would go on. A run that comes within its budget to an instruction
that ends it, be it a stop or a failure, is the same run under every larger budget, however it has
jumped. So for initial programs that end by themselves the budget makes no difference.
-/

namespace DualPlaneVideo

/-- The instruction ends a run by stopping it, or fails because it selects the reserved pixel
depth. -/
def Instruction.EndsRun : Instruction → Prop
  | stop => True
  | loadDisplayArea _ thenStop => thenStop = true
  | loadReadCursor _ => True
  | loadParameters operand => PixelDepth.ofCode? (DisplayParameters.depthCode operand) = none
  | noOperation | jump _ | interrupt | loadRegister _ _ => False

instance : DecidablePred Instruction.EndsRun
  | .stop => .isTrue trivial
  | .loadDisplayArea _ thenStop => inferInstanceAs (Decidable (thenStop = true))
  | .loadReadCursor _ => .isTrue trivial
  | .loadParameters _ => inferInstanceAs (Decidable (_ = none))
  | .noOperation => .isFalse id
  | .jump _ => .isFalse id
  | .interrupt => .isFalse id
  | .loadRegister _ _ => .isFalse id

namespace ProgramRun

variable {memory : Memory} {channel : Plane} {policy : CodingPolicy} {budget more : Nat}
  {address : Word} {state : ProgramRun}

/-- The instructions that end a run do so whatever it has done before. -/
theorem execute_eq_finish_iff (channel : Plane) (policy : CodingPolicy) (state : ProgramRun)
    (next : Word) (instruction : Instruction) :
    (∃ ending, (state.execute channel policy next instruction).2 = .finish ending) ↔
      instruction.EndsRun := by
  cases instruction with
  | stop => exact iff_of_true ⟨_, rfl⟩ trivial
  | loadDisplayArea area thenStop => cases thenStop <;> simp [execute, Instruction.EndsRun]
  | loadReadCursor cursor => exact iff_of_true ⟨_, rfl⟩ trivial
  | loadParameters operand =>
    simp only [execute, loadParameters, DisplayParameters.load?, Instruction.EndsRun]
    cases PixelDepth.ofCode? (DisplayParameters.depthCode operand) <;> simp
  | noOperation => simp [execute, Instruction.EndsRun]
  | jump target => simp [execute, Instruction.EndsRun]
  | interrupt => simp [execute, Instruction.EndsRun]
  | loadRegister opcode operand => simp [execute, Instruction.EndsRun]

/-- Among the instructions that the run carries out within its budget is one that ends it. -/
def EndsWithin (memory : Memory) (channel : Plane) (policy : CodingPolicy) (budget : Nat)
    (address : Word) (state : ProgramRun) : Prop :=
  ∃ executed ∈ trace memory channel policy budget address state, executed.instruction.EndsRun

instance : Decidable (EndsWithin memory channel policy budget address state) :=
  inferInstanceAs (Decidable (∃ executed ∈ _, _))

/-- A run that goes on after its first instruction has the end still before it. -/
theorem EndsWithin.of_goOn {after : ProgramRun} {next : Word}
    (h : EndsWithin memory channel policy (budget + 1) address state)
    (hstep : state.step memory channel policy address = (after, .goOn next)) :
    EndsWithin memory channel policy budget next after := by
  have hfirst : ¬ (fetch memory address).EndsRun := by
    rw [← execute_eq_finish_iff channel policy state (wrapAddress (address + 4)), ← step, hstep]
    rintro ⟨ending, hflow⟩
    cases hflow
  obtain ⟨executed, hmem, hends⟩ := h
  unfold trace at hmem
  rw [hstep, List.mem_cons] at hmem
  rcases hmem with rfl | hlater
  · exact absurd hends hfirst
  · exact ⟨executed, hlater, hends⟩

/-- A run that ends by itself is the same under every larger budget. -/
theorem run_of_endsWithin (h : EndsWithin memory channel policy budget address state)
    (hmore : budget ≤ more) :
    run memory channel policy more address state =
      run memory channel policy budget address state := by
  induction budget generalizing more address state with
  | zero =>
    obtain ⟨executed, hmem, -⟩ := h
    cases hmem
  | succ budget ih =>
    obtain ⟨rest, rfl⟩ := Nat.exists_eq_add_of_le' hmore
    rw [← Nat.add_assoc]
    unfold run
    rcases hstep : state.step memory channel policy address with ⟨after, next | ending⟩
    · exact ih (h.of_goOn hstep) (Nat.le_add_left budget rest)
    · rfl

end ProgramRun

namespace Schedule

variable {memory : Memory} {settings : Settings} {registers : RegisterFile} {channel : Plane}
  {more : UInt32}

/-- The initial program that the channel runs, if it runs one, comes to an end within its budget. -/
def InitialEnds (memory : Memory) (settings : Settings) (registers : RegisterFile)
    (channel : Plane) : Prop :=
  registers.system.initialAreaEnabled channel = true →
    ProgramRun.EndsWithin memory channel settings.policy settings.initialBudget.toNat
      (initialAddress channel) (.start registers)

instance : Decidable (InitialEnds memory settings registers channel) :=
  inferInstanceAs (Decidable (_ → _))

theorem runInitial_of_initialEnds (h : InitialEnds memory settings registers channel)
    (hmore : settings.initialBudget ≤ more) (area : DisplayArea) :
    runInitial memory { settings with initialBudget := more } registers channel area =
      runInitial memory settings registers channel area := by
  unfold runInitial
  by_cases henabled : registers.system.initialAreaEnabled channel = true
  · have hrun := ProgramRun.run_of_endsWithin (h henabled) (UInt32.le_iff_toNat_le.mp hmore)
    rw [if_pos henabled, if_pos henabled, hrun]
  · rw [if_neg henabled, if_neg henabled]

/-- If every initial program that runs comes to an end within its budget, then under a larger budget
the initial programs give the same requests or the same failure, and leave the same registers and
the same display areas. -/
theorem runInitialAreas_of_larger_budget (memory : Memory) (settings : Settings)
    (registers : RegisterFile) (areas : PerPlane DisplayArea) (more : UInt32)
    (hmore : settings.initialBudget ≤ more)
    (hends : ∀ channel, ∀ found ∈ registersAt? (runInitial memory settings) registers areas channel,
      InitialEnds memory settings found channel) :
    runInitialAreas memory { settings with initialBudget := more } registers areas =
      runInitialAreas memory settings registers areas := by
  apply runChannels_congr
  intro channel found hfound
  exact runInitial_of_initialEnds (hends channel found hfound) hmore (areas.get channel)

/-- Channel A jumps to 0x1000, asks for an interrupt there, loads the backdrop, jumps on to 0x2000 and
selects its display area with its fifth instruction. Channel B selects the reserved pixel depth. -/
def scatteredProgram : Memory := fun address ↦
  match address.toNat with
  | 0x400 => 0x40
  | 0x402 => 0x10
  | 0x1000 => 0x60
  | 0x1004 => 0xD8
  | 0x1007 => 0x03
  | 0x1008 => 0x40
  | 0x100A => 0x20
  | 0x2000 => 0x30
  | 0x2002 => 0x30
  | 0x80400 => 0x70
  | 0x80402 => 0x03
  | _ => 0

/-- Five instructions are enough, so the largest budget makes no difference. -/
theorem runInitialAreas_of_larger_budget_scattered :
    let registers : RegisterFile := { RegisterFile.initial with
      system := { SystemRegisters.zeroed with displayCommand := .both 0x0200 } }
    let ran := runInitialAreas scatteredProgram
      { Settings.standard with initialBudget := 0xFFFFFFFF } registers (.both default)
    ran.requests = .error (.reservedPixelDepth .b 3) ∧
      ran.areas = ⟨⟨some 0x3000, false⟩, ⟨none, false⟩⟩ ∧
      ran.registers.system.interruptFlags = ⟨true, false⟩ ∧ ran.registers.backdrop = 3 := by
  intro registers ran
  have hran : ran = runInitialAreas scatteredProgram
      { Settings.standard with initialBudget := 5 } registers (.both default) :=
    runInitialAreas_of_larger_budget scatteredProgram
      { Settings.standard with initialBudget := 5 } registers (.both default) 0xFFFFFFFF (by decide)
      (by decide +kernel)
  rw [hran]
  decide +kernel

end Schedule

end DualPlaneVideo
