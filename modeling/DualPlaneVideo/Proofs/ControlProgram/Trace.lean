import DualPlaneVideo.ControlProgram.Schedule
import DualPlaneVideo.Proofs.RegisterFile.Store

/-!
# What control programs carry out

The trace of a run lists the instructions that it carries out, each with the registers that it
finds. A run asks for an interrupt, and latches the channel's flag, exactly if its trace holds an
interrupt instruction that found the channel's interrupts enabled, however the run ends.
-/

namespace DualPlaneVideo

theorem RegisterFile.system_load (registers : RegisterFile) (channel : Plane) (opcode : UInt8)
    (value : Word) (policy : CodingPolicy) :
    (registers.load channel opcode value policy).system = registers.system := by
  unfold load
  split
  · rfl
  · split
    · exact system_store registers _ value policy
    · rfl

/-- An instruction as it is carried out, and the registers that it finds. -/
structure Executed where
  registers : RegisterFile
  instruction : Instruction

/-- The instruction asks for an interrupt, and the channel has not disabled them. -/
def Executed.interrupts (executed : Executed) (channel : Plane) : Bool :=
  executed.instruction == .interrupt && !executed.registers.system.interruptDisabled channel

/-- An interrupt was asked for in the course of a trace. -/
def asksForInterrupt (channel : Plane) (trace : List Executed) : Bool :=
  trace.any (·.interrupts channel)

namespace SystemRegisters

/-- The system registers after a channel may have latched its interrupt flag. -/
def latched (system : SystemRegisters) (channel : Plane) (interrupted : Bool) : SystemRegisters :=
  if interrupted then { system with interruptFlags := system.interruptFlags.set channel true }
  else system

theorem latched_latched (system : SystemRegisters) (channel : Plane) (first second : Bool) :
    (system.latched channel first).latched channel second =
      system.latched channel (first || second) := by
  cases first <;> cases second <;> cases channel <;> rfl

theorem get_interruptFlags_latched (system : SystemRegisters) (channel plane : Plane)
    (interrupted : Bool) :
    (system.latched channel interrupted).interruptFlags.get plane =
      (system.interruptFlags.get plane || plane == channel && interrupted) := by
  cases interrupted <;> cases channel <;> cases plane <;> simp [latched, PerPlane.get, PerPlane.set]

end SystemRegisters

namespace ProgramRun

variable {channel : Plane}

/-- The instructions that a run carries out. One that fails is the last of them. -/
def trace (memory : Memory) (channel : Plane) (policy : CodingPolicy) (budget : Nat)
    (address : Word) (state : ProgramRun) : List Executed :=
  match budget with
  | 0 => []
  | budget + 1 =>
    ⟨state.registers, fetch memory address⟩ ::
      match state.step memory channel policy address with
      | (_, .finish _) => []
      | (state, .goOn next) => trace memory channel policy budget next state

theorem loadParameters_eq_ok {state after : ProgramRun} {operand : Word}
    (h : state.loadParameters channel operand = .ok after) :
    after.interrupted = state.interrupted ∧
      after.registers.system = state.registers.system := by
  unfold loadParameters at h
  split at h
  · cases h
  · cases h
    exact ⟨rfl, rfl⟩

/-- One instruction latches what it asks for. -/
theorem execute_interrupted (channel : Plane) (policy : CodingPolicy) (state : ProgramRun)
    (next : Word) (instruction : Instruction) :
    let executed : Executed := ⟨state.registers, instruction⟩
    let after := (state.execute channel policy next instruction).1
    after.interrupted = (state.interrupted || executed.interrupts channel) ∧
      after.registers.system =
        state.registers.system.latched channel (executed.interrupts channel) := by
  intro executed after
  cases instruction with
  | interrupt =>
    simp only [executed, after, execute, interrupt, Executed.interrupts]
    cases state.registers.system.interruptDisabled channel with
    | true => simp [SystemRegisters.latched]
    | false => simp [SystemRegisters.latched]
  | loadParameters operand =>
    have hasks : executed.interrupts channel = false := rfl
    simp only [after, execute, hasks, Bool.or_false]
    cases hload : state.loadParameters channel operand with
    | error failure => exact ⟨rfl, rfl⟩
    | ok loaded => exact loadParameters_eq_ok hload
  | loadRegister opcode operand =>
    exact ⟨(Bool.or_false _).symm, RegisterFile.system_load _ _ _ _ _⟩
  | stop => exact ⟨(Bool.or_false _).symm, rfl⟩
  | noOperation => exact ⟨(Bool.or_false _).symm, rfl⟩
  | loadDisplayArea area thenStop => exact ⟨(Bool.or_false _).symm, rfl⟩
  | jump target => exact ⟨(Bool.or_false _).symm, rfl⟩
  | loadReadCursor cursor => exact ⟨(Bool.or_false _).symm, rfl⟩

/-- A whole run latches what its trace asks for, however it ends. -/
theorem run_interrupted (memory : Memory) (channel : Plane) (policy : CodingPolicy) (budget : Nat)
    (address : Word) (state : ProgramRun) :
    let asked := asksForInterrupt channel (trace memory channel policy budget address state)
    let after := (run memory channel policy budget address state).1
    after.interrupted = (state.interrupted || asked) ∧
      after.registers.system = state.registers.system.latched channel asked := by
  induction budget generalizing address state with
  | zero => exact ⟨(Bool.or_false _).symm, rfl⟩
  | succ budget ih =>
    have hstep := execute_interrupted channel policy state (wrapAddress (address + 4))
      (fetch memory address)
    unfold run trace
    rcases hrun : state.step memory channel policy address with ⟨middle, next | ending⟩
    · obtain ⟨hinterrupted, hsystem⟩ := ih next middle
      rw [← step, hrun] at hstep
      dsimp only at hstep ⊢
      rw [hinterrupted, hsystem, hstep.1, hstep.2, SystemRegisters.latched_latched]
      exact ⟨Bool.or_assoc _ _ _, rfl⟩
    · rw [← step, hrun] at hstep
      dsimp only at hstep ⊢
      rw [hstep.1, hstep.2, asksForInterrupt, List.any_cons, List.any_nil, Bool.or_false]
      exact ⟨rfl, rfl⟩

theorem run_start_interrupted {memory : Memory} {policy : CodingPolicy} {budget : Nat}
    {address : Word} {registers : RegisterFile} {after : ProgramRun} {ending : RunEnd}
    (h : run memory channel policy budget address (.start registers) = (after, ending)) :
    let asked := asksForInterrupt channel
      (trace memory channel policy budget address (.start registers))
    after.interrupted = asked ∧ after.registers.system = registers.system.latched channel asked := by
  have hrun := run_interrupted memory channel policy budget address (.start registers)
  rw [h] at hrun
  obtain ⟨hinterrupted, hsystem⟩ := hrun
  intro asked
  constructor
  · calc
      after.interrupted = (false || asked) := hinterrupted
      _ = asked := Bool.false_or asked
  · exact hsystem

end ProgramRun

/-! ## Channels -/

namespace Schedule

variable {memory : Memory} {settings : Settings}

/-- What a channel carries out of its initial control area. -/
def initialTrace (memory : Memory) (settings : Settings) (registers : RegisterFile)
    (channel : Plane) (_area : DisplayArea) : List Executed :=
  if registers.system.initialAreaEnabled channel then
    ProgramRun.trace memory channel settings.policy settings.initialBudget.toNat
      (initialAddress channel) (.start registers)
  else []

/-- What a channel carries out of the display control area of a line. -/
def displayTrace (memory : Memory) (settings : Settings) (registers : RegisterFile)
    (channel : Plane) (area : DisplayArea) : List Executed :=
  if registers.system.displayAreaEnabled channel && !area.halted then
    match area.next, areaLength? settings with
    | some start, some _ =>
      ProgramRun.trace memory channel settings.policy settings.lineBudget.toNat start
        (.start registers)
    | _, _ => []
  else []

/-- Every turn of a channel latches what its trace asks for, and reports it unless it fails. -/
structure Reports (turn : RegisterFile → Plane → DisplayArea → ChannelResult)
    (trace : RegisterFile → Plane → DisplayArea → List Executed) : Prop where
  request : ∀ registers channel area request,
    (turn registers channel area).request = .ok request →
      request.interrupted = asksForInterrupt channel (trace registers channel area)
  system : ∀ registers channel area,
    (turn registers channel area).registers.system =
      registers.system.latched channel (asksForInterrupt channel (trace registers channel area))

theorem reports_runInitial : Reports (runInitial memory settings) (initialTrace memory settings) where
  request registers channel area request h := by
    unfold runInitial at h
    unfold initialTrace
    split at h
    · rw [if_pos (by assumption)]
      rcases hrun : ProgramRun.run memory channel settings.policy settings.initialBudget.toNat
        (initialAddress channel) (.start registers) with ⟨after, ending⟩
      rw [hrun] at h
      rw [← (ProgramRun.run_start_interrupted hrun).1]
      dsimp only at h
      split at h
      · cases h
      · cases h
        rfl
    · rw [if_neg (by assumption)]
      cases h
      rfl
  system registers channel area := by
    unfold runInitial initialTrace
    split
    · rcases hrun : ProgramRun.run memory channel settings.policy settings.initialBudget.toNat
        (initialAddress channel) (.start registers) with ⟨after, ending⟩
      exact (ProgramRun.run_start_interrupted hrun).2
    · rfl

theorem reports_runDisplay : Reports (runDisplay memory settings) (displayTrace memory settings) where
  request registers channel area request h := by
    unfold runDisplay at h
    unfold displayTrace
    dsimp only at h
    split at h
    · rw [if_pos (by assumption)]
      cases hnext : area.next with
      | none =>
        rw [hnext] at h
        cases h
        rfl
      | some start =>
        cases hlength : areaLength? settings with
        | none =>
          rw [hnext, hlength] at h
          cases h
        | some length =>
          rcases hrun : ProgramRun.run memory channel settings.policy settings.lineBudget.toNat
            start (.start registers) with ⟨after, ending⟩
          simp only [hnext, hlength, hrun] at h ⊢
          rw [← (ProgramRun.run_start_interrupted hrun).1]
          split at h
          · cases h
          · cases h
            rfl
          · cases h
            rfl
          · cases h
            rfl
    · rw [if_neg (by assumption)]
      cases h
      rfl
  system registers channel area := by
    unfold runDisplay displayTrace
    dsimp only
    split
    · cases area.next with
      | none => rfl
      | some start =>
        cases areaLength? settings with
        | none => rfl
        | some length =>
          rcases hrun : ProgramRun.run memory channel settings.policy settings.lineBudget.toNat
            start (.start registers) with ⟨after, ending⟩
          simp only [hrun]
          rw [← (ProgramRun.run_start_interrupted hrun).2]
          cases ending <;> rfl
    · rfl

/-- What both channels carry out. After a failure on channel A, channel B carries out nothing. -/
def channelTraces (turn : RegisterFile → Plane → DisplayArea → ChannelResult)
    (trace : RegisterFile → Plane → DisplayArea → List Executed) (registers : RegisterFile)
    (areas : PerPlane DisplayArea) : PerPlane (List Executed) :=
  let first := turn registers .a areas.a
  { a := trace registers .a areas.a
    b :=
      match first.request with
      | .error _ => []
      | .ok _ => trace first.registers .b areas.b }

variable {turn : RegisterFile → Plane → DisplayArea → ChannelResult}
  {trace : RegisterFile → Plane → DisplayArea → List Executed}

theorem Reports.requests (h : Reports turn trace) {registers : RegisterFile}
    {areas : PerPlane DisplayArea} {requests : PerPlane ProgramRequest}
    (hok : (runChannels turn registers areas).requests = .ok requests) (plane : Plane) :
    (requests.get plane).interrupted =
      asksForInterrupt plane ((channelTraces turn trace registers areas).get plane) := by
  unfold runChannels at hok
  unfold channelTraces
  dsimp only at hok ⊢
  cases hfirst : (turn registers .a areas.a).request with
  | error failure =>
    simp only [hfirst] at hok
    cases hok
  | ok requestA =>
    simp only [hfirst] at hok ⊢
    cases hsecond : (turn (turn registers .a areas.a).registers .b areas.b).request with
    | error failure =>
      rw [hsecond] at hok
      cases hok
    | ok requestB =>
      rw [hsecond] at hok
      cases hok
      cases plane with
      | a => exact h.request _ _ _ _ hfirst
      | b => exact h.request _ _ _ _ hsecond

/-- The flags that the channels latch stay latched when one of them fails. -/
theorem Reports.get_interruptFlags (h : Reports turn trace) (registers : RegisterFile)
    (areas : PerPlane DisplayArea) (plane : Plane) :
    (runChannels turn registers areas).registers.system.interruptFlags.get plane =
      (registers.system.interruptFlags.get plane ||
        asksForInterrupt plane ((channelTraces turn trace registers areas).get plane)) := by
  unfold runChannels channelTraces
  dsimp only
  cases hfirst : (turn registers .a areas.a).request with
  | error failure =>
    dsimp only
    rw [h.system, SystemRegisters.get_interruptFlags_latched]
    cases plane <;> rfl
  | ok requestA =>
    dsimp only
    rw [h.system, SystemRegisters.get_interruptFlags_latched, h.system,
      SystemRegisters.get_interruptFlags_latched]
    cases plane with
    | a => simp [PerPlane.get]
    | b =>
      have hother : (Plane.b == Plane.a) = false := rfl
      simp [PerPlane.get, hother]

end Schedule

end DualPlaneVideo
