import DualPlaneVideo.Proofs.Decoder.Interrupts
import Mathlib.Data.List.Induction

/-!
# Interrupt status

An interrupt is outstanding from the instruction that asks for it until the status register is read
or the decoder is reset. Whatever else happens in between, the status register reports exactly the
outstanding interrupts.
-/

namespace DualPlaneVideo

theorem asksForInterrupt_eq_true_iff {channel : Plane} {trace : List Executed} :
    asksForInterrupt channel trace = true ↔
      ∃ executed ∈ trace, executed.instruction = .interrupt ∧
        executed.registers.system.interruptDisabled channel = false := by
  simp only [asksForInterrupt, Executed.interrupts, List.any_eq_true, Bool.and_eq_true,
    Bool.not_eq_true', beq_iff_eq]

@[simp]
theorem asksForInterrupt_nil (channel : Plane) : asksForInterrupt channel [] = false := rfl

namespace SystemRegisters

/-- The status has a bit for each channel and no other bit. -/
theorem testBit_interruptStatus (system : SystemRegisters) (index : Nat) :
    system.interruptStatus.toNat.testBit index = true ↔
      index = 2 ∧ system.interruptFlags.get .a = true ∨
        index = 1 ∧ system.interruptFlags.get .b = true := by
  have hlow : ∀ a b : Bool, ∀ index < 3,
      ((if a then 4 else 0) + (if b then 2 else 0) : UInt16).toNat.testBit index = true ↔
        index = 2 ∧ a = true ∨ index = 1 ∧ b = true := by decide
  have hsmall : ∀ a b : Bool,
      ((if a then 4 else 0) + (if b then 2 else 0) : UInt16).toNat < 2 ^ 3 := by decide
  by_cases hindex : index < 3
  · exact hlow _ _ index hindex
  · have hvalue : system.interruptStatus.toNat < 2 ^ index := by
      calc
        system.interruptStatus.toNat < 2 ^ 3 := hsmall _ _
        _ ≤ 2 ^ index := Nat.pow_le_pow_right Nat.two_pos (Nat.le_of_not_lt hindex)
    rw [Nat.testBit_lt_two_pow hvalue]
    exact iff_of_false Bool.false_ne_true (by omega)

end SystemRegisters

/-- The offset selects the status register of channel B. -/
def IsInterruptStatus (offset : Word) : Prop :=
  registerOffset offset = 0x00

instance (offset : Word) : Decidable (IsInterruptStatus offset) :=
  inferInstanceAs (Decidable (_ = _))

theorem ofOffset?_eq_status_iff {offset : Word} :
    SystemRegister.ofOffset? offset = some (.controlStatus .b) ↔ IsInterruptStatus offset := by
  unfold SystemRegister.ofOffset? IsInterruptStatus
  split <;> simp_all

namespace Decoder

variable {decoder : Decoder} {settings : Settings} {channel : Plane}

/-! ## Operations -/

/-- What may happen to a decoder. The steps of a frame may succeed or fail. -/
inductive Operation where
  | enterFrame (memory : Memory)
  | advanceLine (memory : Memory) (sources : PerPlane (List UInt8))
  | finishFrame
  | write (write : BusWrite)
  | readSystem (offset : Word)
  | reset
  | reload (settings : Settings)

def perform (decoder : Decoder) : Operation → Decoder
  | .enterFrame memory => (decoder.enterFrame memory).decoder
  | .advanceLine memory sources => (decoder.advanceLine memory sources).decoder
  | .finishFrame =>
    match decoder.finishFrame with
    | .error _ => decoder
    | .ok after => after
  | .write write => decoder.write write
  | .readSystem offset => (decoder.readSystem offset).2
  | .reset => decoder.reset
  | .reload settings => decoder.reload settings

theorem Reachable.perform (h : decoder.Reachable) (operation : Operation) :
    (decoder.perform operation).Reachable := by
  cases operation with
  | enterFrame memory => exact h.enterFrame memory
  | advanceLine memory sources => exact h.advanceLine memory sources
  | finishFrame =>
    rw [Decoder.perform]
    split
    · exact h
    · exact h.finishFrame (by assumption)
  | write write => exact h.write write
  | readSystem offset => exact h.readSystem offset
  | reset => exact h.reset
  | reload settings => exact h.reload settings

/-- What the control programs carry out in the course of an operation. -/
def operationTraces (decoder : Decoder) : Operation → PerPlane (List Executed)
  | .enterFrame memory => decoder.enterFrameTraces memory
  | .advanceLine memory sources => decoder.advanceLineTraces memory sources
  | _ => .both []

/-- The operations that settle every outstanding interrupt. -/
def Operation.Settles : Operation → Prop
  | .readSystem offset => IsInterruptStatus offset
  | .reset => True
  | _ => False

/-- The decoder after a run of operations from its creation. -/
def afterRun (settings : Settings) (operations : List Operation) : Decoder :=
  operations.foldl perform (initial settings)

theorem afterRun_concat (settings : Settings) (operations : List Operation)
    (operation : Operation) :
    afterRun settings (operations ++ [operation]) =
      (afterRun settings operations).perform operation := by
  rw [afterRun, List.foldl_append]
  rfl

theorem reachable_afterRun (settings : Settings) (operations : List Operation) :
    (afterRun settings operations).Reachable := by
  induction operations using List.reverseRecOn with
  | nil => exact .initial settings
  | append_singleton operations operation ih =>
    rw [afterRun_concat]
    exact ih.perform operation

/-- In the course of the run the channel's program has carried out an interrupt instruction that
found the channel's interrupts enabled, and nothing after it has settled it. -/
def Outstanding (settings : Settings) (channel : Plane) (operations : List Operation) : Prop :=
  ∃ before operation after, operations = before ++ operation :: after ∧
    (∀ later ∈ after, ¬ later.Settles) ∧
    ∃ executed ∈ ((afterRun settings before).operationTraces operation).get channel,
      executed.instruction = .interrupt ∧
        executed.registers.system.interruptDisabled channel = false

theorem not_outstanding_nil : ¬ Outstanding settings channel [] := by
  rintro ⟨before, operation, after, hsplit, -, -⟩
  exact List.append_ne_nil_of_right_ne_nil before (List.cons_ne_nil operation after) hsplit.symm

/-- An interrupt is outstanding after an operation that asks for it, or if it was before and is not
settled. -/
theorem outstanding_concat_iff {operations : List Operation} {operation : Operation} :
    Outstanding settings channel (operations ++ [operation]) ↔
      asksForInterrupt channel
          (((afterRun settings operations).operationTraces operation).get channel) = true ∨
        ¬ operation.Settles ∧ Outstanding settings channel operations := by
  rw [asksForInterrupt_eq_true_iff]
  constructor
  · rintro ⟨before, asking, after, hsplit, hafter, hasks⟩
    rcases List.eq_nil_or_concat after with rfl | ⟨between, last, rfl⟩
    · obtain ⟨rfl, hlast⟩ := List.append_inj' hsplit rfl
      cases hlast
      exact .inl hasks
    · rw [List.concat_eq_append] at hafter hsplit
      rw [← List.cons_append, ← List.append_assoc] at hsplit
      obtain ⟨rfl, hlast⟩ := List.append_inj' hsplit rfl
      cases hlast
      refine .inr ⟨hafter _ (List.mem_append_right _ (List.mem_singleton_self _)), ?_⟩
      exact ⟨before, asking, between, rfl,
        fun later hlater ↦ hafter later (List.mem_append_left _ hlater), hasks⟩
  · rintro (hasks | ⟨hsettles, before, asking, after, rfl, hafter, hasks⟩)
    · exact ⟨operations, operation, [], rfl, fun _ hlater ↦ absurd hlater List.not_mem_nil, hasks⟩
    · refine ⟨before, asking, after ++ [operation], by simp, ?_, hasks⟩
      intro later hlater
      rcases List.mem_append.mp hlater with hlater | hlater
      · exact hafter later hlater
      · rwa [List.mem_singleton.mp hlater]

/-! ## Flags -/

theorem system_finishFrame {after : Decoder} (h : decoder.finishFrame = .ok after) :
    after.registers.system = decoder.registers.system := by
  unfold finishFrame at h
  cases hdraw : Cursor.draw decoder.frame decoder.registers decoder.blink
    decoder.format.doubleWidth with
  | error failure =>
    rw [hdraw] at h
    cases h
  | ok frame =>
    rw [hdraw] at h
    cases h
    rfl

/-- No write touches the flags, not even one to the status register. -/
theorem interruptFlags_write (decoder : Decoder) (write : BusWrite) :
    (decoder.write write).registers.system.interruptFlags =
      decoder.registers.system.interruptFlags := by
  cases write with
  | register opcode value =>
    exact congrArg SystemRegisters.interruptFlags (RegisterFile.system_load _ _ _ _ _)
  | paletteEntry index value => rfl
  | matteCommand index value => rfl
  | cursorRow row pattern => rfl
  | system offset value =>
    rw [Decoder.write, writeSystem]
    split
    · rename_i register _
      cases register <;> rfl
    · rfl

theorem readSystem_status {offset : Word} (h : IsInterruptStatus offset) :
    decoder.readSystem offset = (decoder.registers.system.interruptStatus,
      decoder.setSystem { decoder.registers.system with interruptFlags := .both false }) := by
  simp only [readSystem, ofOffset?_eq_status_iff.mpr h]

theorem readSystem_of_not_status {offset : Word} (h : ¬ IsInterruptStatus offset) :
    (decoder.readSystem offset).2 = decoder := by
  unfold readSystem
  dsimp only
  split
  · rfl
  · exact absurd (ofOffset?_eq_status_iff.mp (by assumption)) h
  · rfl
  · rfl
  · rfl

/-- One operation: what its control programs ask for is latched, and what is settled is cleared. -/
theorem interruptFlags_perform (decoder : Decoder) (operation : Operation) (channel : Plane) :
    (decoder.perform operation).registers.system.interruptFlags.get channel = true ↔
      asksForInterrupt channel ((decoder.operationTraces operation).get channel) = true ∨
        ¬ operation.Settles ∧
          decoder.registers.system.interruptFlags.get channel = true := by
  cases operation with
  | enterFrame memory =>
    rw [perform, (interrupts_enterFrame decoder memory).latched]
    simp [operationTraces, Operation.Settles, or_comm]
  | advanceLine memory sources =>
    rw [perform, (interrupts_advanceLine decoder memory sources).latched]
    simp [operationTraces, Operation.Settles, or_comm]
  | finishFrame =>
    have hsystem : (decoder.perform .finishFrame).registers.system = decoder.registers.system := by
      rw [perform]
      split
      · rfl
      · exact system_finishFrame (by assumption)
    simp [hsystem, operationTraces, Operation.Settles]
  | write write =>
    simp [perform, interruptFlags_write, operationTraces, Operation.Settles]
  | readSystem offset =>
    by_cases hstatus : IsInterruptStatus offset
    · simp [perform, readSystem_status hstatus, setSystem, operationTraces, Operation.Settles,
        hstatus]
    · simp [perform, readSystem_of_not_status hstatus, operationTraces, Operation.Settles, hstatus]
  | reset =>
    simp [perform, reset, RegisterFile.reset, SystemRegisters.zeroed, operationTraces,
      Operation.Settles]
  | reload settings =>
    simp [perform, reload, operationTraces, Operation.Settles]

/-- After a run the flags are those of the outstanding interrupts. -/
theorem interruptFlags_afterRun (settings : Settings) (operations : List Operation)
    (channel : Plane) :
    (afterRun settings operations).registers.system.interruptFlags.get channel = true ↔
      Outstanding settings channel operations := by
  induction operations using List.reverseRecOn with
  | nil =>
    have hflag : (afterRun settings []).registers.system.interruptFlags.get channel = false := by
      cases channel <;> rfl
    rw [hflag]
    exact iff_of_false Bool.false_ne_true not_outstanding_nil
  | append_singleton operations operation ih =>
    rw [afterRun_concat, interruptFlags_perform, ih, outstanding_concat_iff]

/-- After any run the status register holds exactly the outstanding interrupts, bit 2 for channel A
and bit 1 for channel B. Reading it settles them, at whichever of its offsets, and no other read
changes anything. -/
theorem readSystem_reports_outstanding (settings : Settings) (operations : List Operation)
    {offset : Word} (hoffset : IsInterruptStatus offset) :
    let decoder := afterRun settings operations
    let read := decoder.readSystem offset
    (∀ index, read.1.toNat.testBit index = true ↔
      index = 2 ∧ Outstanding settings .a operations ∨
        index = 1 ∧ Outstanding settings .b operations) ∧
    (∀ again, IsInterruptStatus again → (read.2.readSystem again).1 = 0) ∧
    ∀ other, ¬ IsInterruptStatus other → (decoder.readSystem other).2 = decoder := by
  intro decoder read
  have hread : read = _ := readSystem_status hoffset
  refine ⟨?_, ?_, fun other ↦ readSystem_of_not_status⟩
  · intro index
    rw [hread, SystemRegisters.testBit_interruptStatus, interruptFlags_afterRun,
      interruptFlags_afterRun]
  · intro again hagain
    rw [hread, readSystem_status hagain]
    rfl

/-- The display control area of channel A fails after it has asked for an interrupt. -/
def failedLine : List Operation :=
  [.write (.system 0x12 0x0300), .enterFrame interruptThenReservedDepth] ++
    [.advanceLine interruptThenReservedDepth (.both [])]

theorem readSystem_reports_outstanding_failed_line :
    ((afterRun default failedLine).readSystem 0x21).1.toNat.testBit 2 = true ∧
      (((afterRun default failedLine).readSystem 0x21).2.readSystem 0x00).1 = 0 := by
  have hrun : afterRun default
      [.write (.system 0x12 0x0300), .enterFrame interruptThenReservedDepth] = programsOfA := rfl
  have houtstanding : Outstanding default .a failedLine := by
    apply outstanding_concat_iff.mpr
    left
    rw [hrun, operationTraces, advanceLineTraces_programsOfA]
    decide +kernel
  have hstatus : IsInterruptStatus 0x21 := by decide
  obtain ⟨hbits, hagain, -⟩ := readSystem_reports_outstanding default failedLine hstatus
  exact ⟨(hbits 2).mpr (.inl ⟨rfl, houtstanding⟩), hagain 0x00 (by decide)⟩

end Decoder

end DualPlaneVideo
