import DualPlaneVideo.Proofs.ControlProgram.Trace

/-!
# What control programs do to registers

A control program changes registers in three ways only: it loads a register in its channel's name,
loads its channel's display parameters, and latches its channel's interrupt flag. Whatever these
three keep is kept by every run, and by every turn of a channel in the schedule, however it ends.
-/

namespace DualPlaneVideo

/-- A property of registers that nothing a channel's programs do can end. They load no more than 24
bits. -/
structure RegisterFile.KeptBy (channel : Plane) (policy : CodingPolicy)
    (property : RegisterFile → Prop) : Prop where
  load : ∀ registers opcode (value : Word), value.toNat < 0x1000000 → property registers →
    property (registers.load channel opcode value policy)
  parameters : ∀ registers operand loaded,
    (registers.parameters.get channel).load? operand = some loaded → property registers →
      property { registers with parameters := registers.parameters.set channel loaded }
  interrupt : ∀ registers, property registers →
    property { registers with
      system := { registers.system with
        interruptFlags := registers.system.interruptFlags.set channel true } }

theorem RegisterFile.KeptBy.and {channel : Plane} {policy : CodingPolicy}
    {first second : RegisterFile → Prop} (hfirst : KeptBy channel policy first)
    (hsecond : KeptBy channel policy second) :
    KeptBy channel policy fun registers ↦ first registers ∧ second registers where
  load registers opcode value hvalue h :=
    ⟨hfirst.load registers opcode value hvalue h.1, hsecond.load registers opcode value hvalue h.2⟩
  parameters registers operand loaded hload h :=
    ⟨hfirst.parameters registers operand loaded hload h.1,
      hsecond.parameters registers operand loaded hload h.2⟩
  interrupt registers h := ⟨hfirst.interrupt registers h.1, hsecond.interrupt registers h.2⟩

/-- An operand has 24 bits. -/
theorem Instruction.operand_lt {word operand : Word} {opcode : UInt8}
    (h : ofWord word = .loadRegister opcode operand) : operand.toNat < 0x1000000 := by
  unfold ofWord at h
  dsimp only at h
  split at h
  all_goals cases h
  exact word.low24_lt

namespace ProgramRun

variable {channel : Plane} {policy : CodingPolicy} {property : RegisterFile → Prop}

theorem execute_keeps (h : RegisterFile.KeptBy channel policy property) (state : ProgramRun)
    (next word : Word) (hstate : property state.registers) :
    property (state.execute channel policy next (.ofWord word)).1.registers := by
  cases hinstruction : Instruction.ofWord word with
  | interrupt =>
    simp only [execute, interrupt]
    split
    · exact hstate
    · exact h.interrupt _ hstate
  | loadParameters operand =>
    simp only [execute, loadParameters]
    cases hload : (state.registers.parameters.get channel).load? operand with
    | none => exact hstate
    | some loaded => exact h.parameters _ operand loaded hload hstate
  | loadRegister opcode operand =>
    exact h.load _ opcode operand (Instruction.operand_lt hinstruction) hstate
  | stop => exact hstate
  | noOperation => exact hstate
  | loadDisplayArea area thenStop => exact hstate
  | jump target => exact hstate
  | loadReadCursor cursor => exact hstate

/-- A run is a sequence of instructions, so it keeps what each of them keeps. -/
theorem run_keeps (h : RegisterFile.KeptBy channel policy property) (memory : Memory)
    (budget : Nat) (address : Word) (state : ProgramRun) (hstate : property state.registers) :
    property (run memory channel policy budget address state).1.registers := by
  induction budget generalizing address state with
  | zero => exact hstate
  | succ budget ih =>
    have hstep := execute_keeps h state (wrapAddress (address + 4)) (memory.longword address) hstate
    rw [← fetch, ← step] at hstep
    unfold run
    rcases hrun : state.step memory channel policy address with ⟨after, next | ending⟩
    · rw [hrun] at hstep
      exact ih next after hstep
    · rw [hrun] at hstep
      exact hstep

end ProgramRun

namespace Schedule

variable {memory : Memory} {settings : Settings} {registers : RegisterFile} {channel : Plane}
  {area : DisplayArea} {areas : PerPlane DisplayArea} {property : RegisterFile → Prop}

theorem runInitial_keeps (h : RegisterFile.KeptBy channel settings.policy property)
    (hregisters : property registers) :
    property (runInitial memory settings registers channel area).registers := by
  unfold runInitial
  split
  · exact ProgramRun.run_keeps h memory _ _ (.start registers) hregisters
  · exact hregisters

theorem runDisplay_keeps (h : RegisterFile.KeptBy channel settings.policy property)
    (hregisters : property registers) :
    property (runDisplay memory settings registers channel area).registers := by
  unfold runDisplay
  dsimp only
  split
  · split
    · exact hregisters
    · exact hregisters
    · rename_i start length _ _
      have hrun := ProgramRun.run_keeps h memory settings.lineBudget.toNat start
        (.start registers) hregisters
      cases hending : (ProgramRun.run memory channel settings.policy settings.lineBudget.toNat
        start (.start registers)).2 with
      | failed failure => exact hrun
      | stopped => exact hrun
      | exhausted => exact hrun
      | redirected => exact hrun
  · exact hregisters

/-- The schedule ends with the registers that the last turn left. -/
theorem registers_runChannels (turn : RegisterFile → Plane → DisplayArea → ChannelResult)
    (registers : RegisterFile) (areas : PerPlane DisplayArea) :
    let first := turn registers .a areas.a
    (runChannels turn registers areas).registers = first.registers ∨
      (runChannels turn registers areas).registers =
        (turn first.registers .b areas.b).registers := by
  unfold runChannels
  dsimp only
  cases (turn registers .a areas.a).request with
  | error failure => exact .inl rfl
  | ok request => exact .inr rfl

theorem runChannels_keeps {turn : RegisterFile → Plane → DisplayArea → ChannelResult}
    (hturn : ∀ registers channel area, property registers →
      property (turn registers channel area).registers)
    (hregisters : property registers) : property (runChannels turn registers areas).registers := by
  have hfirst := hturn registers .a areas.a hregisters
  rcases registers_runChannels turn registers areas with hlast | hlast
  · rw [hlast]
    exact hfirst
  · rw [hlast]
    exact hturn _ .b areas.b hfirst

/-! ## A channel without a turn -/

theorem runInitial_of_disabled (h : registers.system.initialAreaEnabled channel = false) :
    runInitial memory settings registers channel area =
      ⟨registers, { area with halted := false }, .ok .idle⟩ := by
  rw [runInitial, if_neg (by rw [h]; exact Bool.false_ne_true)]

theorem runDisplay_of_disabled (h : registers.system.displayAreaEnabled channel = false) :
    runDisplay memory settings registers channel area = ⟨registers, area, .ok .idle⟩ := by
  rw [runDisplay, if_neg (by rw [h]; exact Bool.false_ne_true)]

/-- With no channel enabled, starting a frame only wakes both. -/
theorem runInitialAreas_of_disabled
    (h : ∀ channel, registers.system.initialAreaEnabled channel = false) :
    runInitialAreas memory settings registers areas =
      ⟨registers, areas.map fun area ↦ { area with halted := false }, .ok (.both .idle)⟩ := by
  simp only [runInitialAreas, runChannels, runInitial_of_disabled (h .a),
    runInitial_of_disabled (h .b)]
  rfl

theorem runDisplayAreas_of_disabled
    (h : ∀ channel, registers.system.displayAreaEnabled channel = false) :
    runDisplayAreas memory settings registers areas = ⟨registers, areas, .ok (.both .idle)⟩ := by
  simp only [runDisplayAreas, runChannels, runDisplay_of_disabled (h .a),
    runDisplay_of_disabled (h .b)]
  rfl

end Schedule

end DualPlaneVideo
