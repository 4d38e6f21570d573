import DualPlaneVideo.Proofs.ControlProgram.Registers

/-!
# What control programs fetch

A run fetches its instructions one by one, the first where it starts. Which ones these are depends
on memory and on nothing that the run finds in registers. They tell what the run leaves behind: the
last display control area and the last read cursor that were selected, and whether it was stopped.
-/

namespace DualPlaneVideo

namespace Instruction

/-- The display control area that an instruction selects. -/
def displayArea? : Instruction → Option Word
  | .loadDisplayArea area _ => some area
  | _ => none

/-- The read cursor that an instruction loads. -/
def readCursor? : Instruction → Option Word
  | .loadReadCursor cursor => some cursor
  | _ => none

end Instruction

/-- An instruction and where it was fetched. -/
structure Fetched where
  address : Word
  instruction : Instruction
  deriving DecidableEq

/-- What the last instruction with a target of some kind targets. -/
def lastTarget (target? : Instruction → Option Word) (fetched : List Fetched) : Option Word :=
  (fetched.filterMap fun one ↦ target? one.instruction).getLast?

/-- The last display control area that was selected. -/
def lastDisplayArea (fetched : List Fetched) : Option Word :=
  lastTarget Instruction.displayArea? fetched

/-- The last read cursor that was loaded. -/
def lastReadCursor (fetched : List Fetched) : Option Word :=
  lastTarget Instruction.readCursor? fetched

/-- A stop instruction was among them. -/
def HasStop (fetched : List Fetched) : Prop :=
  ∃ one ∈ fetched, one.instruction = .stop

instance (fetched : List Fetched) : Decidable (HasStop fetched) :=
  inferInstanceAs (Decidable (∃ one ∈ fetched, one.instruction = .stop))

theorem lastTarget_cons (target? : Instruction → Option Word) (one : Fetched)
    (rest : List Fetched) :
    lastTarget target? (one :: rest) =
      (lastTarget target? rest).or (target? one.instruction) := by
  unfold lastTarget
  rw [List.filterMap_cons]
  cases target? one.instruction with
  | none => exact Option.or_none.symm
  | some target =>
    dsimp only
    rw [List.getLast?_cons]
    cases (rest.filterMap fun one ↦ target? one.instruction).getLast? <;> rfl

theorem not_hasStop_nil : ¬ HasStop [] := by
  rintro ⟨one, hone, -⟩
  cases hone

theorem hasStop_cons {one : Fetched} {rest : List Fetched} :
    HasStop (one :: rest) ↔ one.instruction = .stop ∨ HasStop rest := by
  unfold HasStop
  simp only [List.mem_cons, exists_eq_or_imp]

namespace ProgramRun

variable {channel : Plane}

/-- What a run fetches. -/
def fetches (memory : Memory) (channel : Plane) (policy : CodingPolicy) (budget : Nat)
    (address : Word) (state : ProgramRun) : List Fetched :=
  match budget with
  | 0 => []
  | budget + 1 =>
    ⟨address, fetch memory address⟩ ::
      match state.step memory channel policy address with
      | (_, .finish _) => []
      | (state, .goOn next) => fetches memory channel policy budget next state

/-- Everything that is fetched is carried out. -/
theorem map_instruction_fetches (memory : Memory) (policy : CodingPolicy) (budget : Nat)
    (address : Word) (state : ProgramRun) :
    (fetches memory channel policy budget address state).map Fetched.instruction =
      (trace memory channel policy budget address state).map Executed.instruction := by
  induction budget generalizing address state with
  | zero => rfl
  | succ budget ih =>
    unfold fetches trace
    rcases state.step memory channel policy address with ⟨after, next | ending⟩
    · exact congrArg (List.cons (fetch memory address)) (ih next after)
    · rfl

theorem head?_fetches (memory : Memory) (policy : CodingPolicy) (budget : Nat) (address : Word)
    (state : ProgramRun) :
    (fetches memory channel policy budget address state).head? =
      if budget = 0 then none else some ⟨address, fetch memory address⟩ := by
  cases budget with
  | zero => rfl
  | succ budget => rfl

theorem address_of_head {memory : Memory} {policy : CodingPolicy} {budget : Nat} {address : Word}
    {state : ProgramRun} {first : Fetched}
    (h : first ∈ (fetches memory channel policy budget address state).head?) :
    first.address = address := by
  rw [head?_fetches] at h
  split at h
  · cases h
  · cases h
    rfl

/-- Where a program goes on does not depend on what it finds in registers. -/
theorem execute_flow (channel : Plane) (policy other : CodingPolicy) (state found : ProgramRun) (next : Word)
    (instruction : Instruction) :
    (state.execute channel policy next instruction).2 =
      (found.execute channel other next instruction).2 := by
  cases instruction with
  | loadParameters operand =>
    simp only [execute, loadParameters, DisplayParameters.load?]
    cases PixelDepth.ofCode? (DisplayParameters.depthCode operand) <;> rfl
  | stop => rfl
  | noOperation => rfl
  | loadDisplayArea area thenStop => rfl
  | jump target => rfl
  | loadReadCursor cursor => rfl
  | interrupt => rfl
  | loadRegister opcode operand => rfl

/-- What is fetched depends on memory, the budget and the address alone. -/
theorem fetches_congr (memory : Memory) (policy other : CodingPolicy) (budget : Nat)
    (address : Word) (state found : ProgramRun) :
    fetches memory channel policy budget address state =
      fetches memory channel other budget address found := by
  induction budget generalizing address state found with
  | zero => rfl
  | succ budget ih =>
    have hflow := execute_flow channel policy other state found
      (wrapAddress (address + 4)) (fetch memory address)
    rw [← step, ← step] at hflow
    unfold fetches
    rcases hstep : state.step memory channel policy address with ⟨after, flow⟩
    rcases hfound : found.step memory channel other address with ⟨foundAfter, foundFlow⟩
    rw [hstep, hfound] at hflow
    cases hflow
    cases flow with
    | goOn next => exact congrArg _ (ih next after foundAfter)
    | finish ending => rfl

/-- A field of the run that holds the last target of some kind. -/
theorem run_lastTarget {field : ProgramRun → Option Word} {target? : Instruction → Option Word}
    {policy : CodingPolicy}
    (hexecute : ∀ state next instruction,
      field (execute channel policy next state instruction).1 =
        (target? instruction).or (field state))
    (memory : Memory) (budget : Nat) (address : Word) (state : ProgramRun) :
    field (run memory channel policy budget address state).1 =
      (lastTarget target? (fetches memory channel policy budget address state)).or
        (field state) := by
  induction budget generalizing address state with
  | zero => rfl
  | succ budget ih =>
    have hstep := hexecute state (wrapAddress (address + 4)) (fetch memory address)
    rw [← step] at hstep
    unfold run fetches
    rcases hrun : state.step memory channel policy address with ⟨after, next | ending⟩
    · rw [hrun] at hstep
      dsimp only at hstep ⊢
      rw [ih next after, hstep, lastTarget_cons]
      cases lastTarget target? (fetches memory channel policy budget next after) <;> rfl
    · rw [hrun] at hstep
      dsimp only at hstep ⊢
      rw [hstep, lastTarget_cons]
      rfl

theorem execute_targets (policy : CodingPolicy) (state : ProgramRun) (next : Word)
    (instruction : Instruction) :
    let after := (state.execute channel policy next instruction).1
    after.displayArea = instruction.displayArea?.or state.displayArea ∧
      after.readCursor = instruction.readCursor?.or state.readCursor := by
  cases instruction with
  | interrupt =>
    simp only [execute, interrupt]
    split
    · exact ⟨rfl, rfl⟩
    · exact ⟨rfl, rfl⟩
  | loadParameters operand =>
    simp only [execute, loadParameters]
    cases (state.registers.parameters.get channel).load? operand with
    | none => exact ⟨rfl, rfl⟩
    | some loaded => exact ⟨rfl, rfl⟩
  | stop => exact ⟨rfl, rfl⟩
  | noOperation => exact ⟨rfl, rfl⟩
  | loadDisplayArea area thenStop => exact ⟨rfl, rfl⟩
  | jump target => exact ⟨rfl, rfl⟩
  | loadReadCursor cursor => exact ⟨rfl, rfl⟩
  | loadRegister opcode operand => exact ⟨rfl, rfl⟩

theorem displayArea_run (memory : Memory) (channel : Plane) (policy : CodingPolicy) (budget : Nat)
    (address : Word) (registers : RegisterFile) :
    (run memory channel policy budget address (.start registers)).1.displayArea =
      lastDisplayArea (fetches memory channel policy budget address (.start registers)) := by
  rw [run_lastTarget fun state next instruction ↦ (execute_targets policy state next instruction).1]
  exact Option.or_none

theorem readCursor_run (memory : Memory) (channel : Plane) (policy : CodingPolicy) (budget : Nat)
    (address : Word) (registers : RegisterFile) :
    (run memory channel policy budget address (.start registers)).1.readCursor =
      lastReadCursor (fetches memory channel policy budget address (.start registers)) := by
  rw [run_lastTarget fun state next instruction ↦ (execute_targets policy state next instruction).2]
  exact Option.or_none

theorem execute_eq_stopped_iff (channel : Plane) (policy : CodingPolicy) (state : ProgramRun)
    (next : Word) (instruction : Instruction) :
    (state.execute channel policy next instruction).2 = .finish .stopped ↔
      instruction = .stop := by
  cases instruction with
  | stop => exact iff_of_true rfl rfl
  | loadDisplayArea area thenStop => cases thenStop <;> simp [execute]
  | loadParameters operand =>
    simp only [execute, loadParameters]
    cases (state.registers.parameters.get channel).load? operand <;> simp
  | noOperation => simp [execute]
  | jump target => simp [execute]
  | loadReadCursor cursor => simp [execute]
  | interrupt => simp [execute]
  | loadRegister opcode operand => simp [execute]

/-- A run that is not stopped has fetched no stop instruction, however it ends. -/
theorem run_eq_stopped_iff (memory : Memory) (channel : Plane) (policy : CodingPolicy)
    (budget : Nat) (address : Word) (state : ProgramRun) :
    (run memory channel policy budget address state).2 = .stopped ↔
      HasStop (fetches memory channel policy budget address state) := by
  induction budget generalizing address state with
  | zero => exact iff_of_false (by simp [run]) not_hasStop_nil
  | succ budget ih =>
    have hstop := execute_eq_stopped_iff channel policy state (wrapAddress (address + 4))
      (fetch memory address)
    rw [← step] at hstop
    unfold run fetches
    rw [hasStop_cons, ← hstop]
    rcases state.step memory channel policy address with ⟨after, next | ending⟩
    · dsimp only
      rw [ih]
      simp
    · dsimp only
      simp [not_hasStop_nil]

end ProgramRun

end DualPlaneVideo
