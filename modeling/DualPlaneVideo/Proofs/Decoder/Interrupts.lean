import DualPlaneVideo.Proofs.ControlProgram.Trace
import DualPlaneVideo.Proofs.Decoder.Reachable

/-!
# Interrupts of a step

The interrupts that are due in a step are those that its control programs ask for. Every one of
them latches its flag. They are raised when the step succeeds, channel A before channel B; when it
fails, none of them is.
-/

namespace DualPlaneVideo

namespace Decoder

variable {decoder after : Decoder} {memory : Memory} {sources : PerPlane (List UInt8)}

/-- What the control programs carry out at the start of a frame. -/
def enterFrameTraces (decoder : Decoder) (memory : Memory) : PerPlane (List Executed) :=
  Schedule.channelTraces (Schedule.runInitial memory decoder.settings)
    (Schedule.initialTrace memory decoder.settings) decoder.registers decoder.areas

/-- What the control programs carry out after a line. A line that cannot be shown has none. -/
def advanceLineTraces (decoder : Decoder) (memory : Memory) (sources : PerPlane (List UInt8)) :
    PerPlane (List Executed) :=
  match decoder.showLine sources with
  | (_, .error _) => .both []
  | (shown, .ok _) =>
    Schedule.channelTraces (Schedule.runDisplay memory shown.settings)
      (Schedule.displayTrace memory shown.settings) shown.registers shown.areas

/-- An interrupt for each channel that asks for one, channel A before channel B. -/
def dueInterrupts (settings : Settings) (traces : PerPlane (List Executed)) : List UInt8 :=
  ([Plane.a, Plane.b].filter fun plane ↦ asksForInterrupt plane (traces.get plane)).map
    fun _ ↦ settings.interruptLine

theorem interruptLines_eq_dueInterrupts {requests : PerPlane ProgramRequest}
    {traces : PerPlane (List Executed)}
    (h : ∀ plane, (requests.get plane).interrupted = asksForInterrupt plane (traces.get plane))
    (settings : Settings) : interruptLines settings requests = dueInterrupts settings traces := by
  have ha : requests.a.interrupted = asksForInterrupt .a (traces.get .a) := h .a
  have hb : requests.b.interrupted = asksForInterrupt .b (traces.get .b) := h .b
  unfold interruptLines dueInterrupts PerPlane.toList
  simp only [List.filter, ha, hb]
  cases asksForInterrupt .a (traces.get .a) <;> cases asksForInterrupt .b (traces.get .b) <;> rfl

/-- The interrupts and flags of a step whose programs carry out `traces`. -/
structure Interrupts {α : Type} (decoder : Decoder) (traces : PerPlane (List Executed))
    (step : DecoderStep α) : Prop where
  raised_of_ok : ∀ value, step.result = .ok value →
    step.raised = dueInterrupts decoder.settings traces
  raised_of_error : ∀ failure, step.result = .error failure → step.raised = []
  latched : ∀ plane, step.decoder.registers.system.interruptFlags.get plane =
    (decoder.registers.system.interruptFlags.get plane ||
      asksForInterrupt plane (traces.get plane))

/-- A step that fails raises nothing, whatever it has latched. -/
theorem Interrupts.of_error {α : Type} {traces : PerPlane (List Executed)} {step : DecoderStep α}
    {failure : Failure} (hresult : step.result = .error failure) (hraised : step.raised = [])
    (hlatched : ∀ plane, step.decoder.registers.system.interruptFlags.get plane =
      (decoder.registers.system.interruptFlags.get plane ||
        asksForInterrupt plane (traces.get plane))) : Interrupts decoder traces step where
  raised_of_ok value hvalue := by
    rw [hresult] at hvalue
    cases hvalue
  raised_of_error _ _ := hraised
  latched := hlatched

/-- A step that succeeds raises an interrupt for each request. -/
theorem Interrupts.of_ok {α : Type} {traces : PerPlane (List Executed)} {step : DecoderStep α}
    {value : α} {requests : PerPlane ProgramRequest} (hresult : step.result = .ok value)
    (hraised : step.raised = interruptLines decoder.settings requests)
    (hrequests : ∀ plane,
      (requests.get plane).interrupted = asksForInterrupt plane (traces.get plane))
    (hlatched : ∀ plane, step.decoder.registers.system.interruptFlags.get plane =
      (decoder.registers.system.interruptFlags.get plane ||
        asksForInterrupt plane (traces.get plane))) : Interrupts decoder traces step where
  raised_of_ok _ _ := by
    rw [hraised]
    exact interruptLines_eq_dueInterrupts hrequests decoder.settings
  raised_of_error failure hfailure := by
    rw [hresult] at hfailure
    cases hfailure
  latched := hlatched

theorem interrupts_enterFrame (decoder : Decoder) (memory : Memory) :
    Interrupts decoder (decoder.enterFrameTraces memory) (decoder.enterFrame memory) := by
  have hreports : Schedule.Reports (Schedule.runInitial memory decoder.settings)
      (Schedule.initialTrace memory decoder.settings) := Schedule.reports_runInitial
  have hflags := hreports.get_interruptFlags decoder.registers decoder.areas
  unfold enterFrame enterFrameTraces Schedule.runInitialAreas
  dsimp only [latchFormat, afterPrograms]
  split
  · exact .of_error rfl rfl hflags
  · rename_i requests hrequests
    exact .of_ok rfl rfl (hreports.requests hrequests) hflags

theorem scanLines_system (h : decoder.scanLines = .ok after) :
    after.registers.system = decoder.registers.system ∧ after.settings = decoder.settings := by
  unfold scanLines at h
  dsimp only at h
  split at h
  · split at h
    · cases h
    · cases h
      exact ⟨rfl, rfl⟩
  · cases h

/-- Showing a line changes no system register and no setting. -/
theorem showLine_system (decoder : Decoder) (sources : PerPlane (List UInt8)) :
    (decoder.showLine sources).1.registers.system = decoder.registers.system ∧
      (decoder.showLine sources).1.settings = decoder.settings := by
  unfold showLine
  split
  · obtain ⟨buffers, hdecoded, -⟩ := decodeLines_fst decoder sources
    unfold pictureLine
    rcases hrun : decoder.decodeLines sources with ⟨decoded, failure | consumed⟩
    all_goals
      rw [hrun] at hdecoded
      cases hdecoded
    · exact ⟨rfl, rfl⟩
    · dsimp only
      split
      · split
        · exact ⟨rfl, rfl⟩
        · rename_i hscan
          obtain ⟨hsystem, hsettings⟩ := scanLines_system hscan
          exact ⟨hsystem, hsettings⟩
      · exact ⟨rfl, rfl⟩
  · unfold blankLine
    split
    · split
      · exact ⟨rfl, rfl⟩
      · exact ⟨rfl, rfl⟩
    · exact ⟨rfl, rfl⟩

theorem advanceLineTraces_of_showLine {shown : Decoder} {consumed : PerPlane Nat}
    (h : decoder.showLine sources = (shown, .ok consumed)) (memory : Memory) :
    decoder.advanceLineTraces memory sources =
      Schedule.channelTraces (Schedule.runDisplay memory shown.settings)
        (Schedule.displayTrace memory shown.settings) shown.registers shown.areas := by
  rw [advanceLineTraces, h]

theorem advanceLine_eq_error {shown : Decoder} {consumed : PerPlane Nat} {failure : Failure}
    (hshow : decoder.showLine sources = (shown, .ok consumed))
    (hran : (Schedule.runDisplayAreas memory shown.settings shown.registers shown.areas).requests =
      .error failure) :
    (decoder.advanceLine memory sources).result = .error failure := by
  simp only [advanceLine, hshow, hran]

theorem interrupts_advanceLine (decoder : Decoder) (memory : Memory)
    (sources : PerPlane (List UInt8)) :
    Interrupts decoder (decoder.advanceLineTraces memory sources)
      (decoder.advanceLine memory sources) := by
  obtain ⟨hsystem, hsettings⟩ := showLine_system decoder sources
  unfold advanceLine advanceLineTraces Schedule.runDisplayAreas
  rcases hshow : decoder.showLine sources with ⟨shown, failure | consumed⟩
  · rw [hshow] at hsystem
    apply Interrupts.of_error rfl rfl
    intro plane
    dsimp only at hsystem ⊢
    rw [hsystem, PerPlane.get_both, asksForInterrupt, List.any_nil, Bool.or_false]
  · rw [hshow] at hsystem hsettings
    dsimp only [afterPrograms] at hsystem hsettings ⊢
    have hreports : Schedule.Reports (Schedule.runDisplay memory shown.settings)
        (Schedule.displayTrace memory shown.settings) := Schedule.reports_runDisplay
    have hflags := hreports.get_interruptFlags shown.registers shown.areas
    rw [hsystem] at hflags
    split
    · exact .of_error rfl rfl hflags
    · rename_i requests hrequests
      have hraised := congrArg (interruptLines · requests) hsettings
      exact .of_ok rfl hraised (hreports.requests hrequests) hflags

theorem dueInterrupts_eq_nil_iff (settings : Settings) {traces : PerPlane (List Executed)} :
    dueInterrupts settings traces = [] ↔
      ∀ plane, asksForInterrupt plane (traces.get plane) = false := by
  rw [Plane.forall_iff]
  simp [dueInterrupts]

/-- Interrupts get lost exactly where some are due and the step fails. -/
theorem Interrupts.raised_eq_iff {α : Type} {traces : PerPlane (List Executed)}
    {step : DecoderStep α} (h : Interrupts decoder traces step) :
    step.raised = dueInterrupts decoder.settings traces ↔
      (∃ value, step.result = .ok value) ∨
        ∀ plane, asksForInterrupt plane (traces.get plane) = false := by
  rw [← dueInterrupts_eq_nil_iff decoder.settings]
  cases hresult : step.result with
  | ok value => exact iff_of_true (h.raised_of_ok value hresult) (.inl ⟨value, rfl⟩)
  | error failure =>
    rw [h.raised_of_error failure hresult]
    constructor
    · intro hnone
      exact .inr hnone.symm
    · rintro (⟨value, hvalue⟩ | hnone)
      · cases hvalue
      · exact hnone.symm

/-- A step raises what is due, channel A before channel B, exactly if it succeeds or nothing is due.
The flags are latched either way. -/
theorem raised_eq_dueInterrupts_iff (decoder : Decoder) (memory : Memory)
    (sources : PerPlane (List UInt8)) :
    (Interrupts decoder (decoder.enterFrameTraces memory) (decoder.enterFrame memory) ∧
      ((decoder.enterFrame memory).raised =
          dueInterrupts decoder.settings (decoder.enterFrameTraces memory) ↔
        (∃ cursors, (decoder.enterFrame memory).result = .ok cursors) ∨
          ∀ plane, asksForInterrupt plane ((decoder.enterFrameTraces memory).get plane) = false)) ∧
    (Interrupts decoder (decoder.advanceLineTraces memory sources)
        (decoder.advanceLine memory sources) ∧
      ((decoder.advanceLine memory sources).raised =
          dueInterrupts decoder.settings (decoder.advanceLineTraces memory sources) ↔
        (∃ report, (decoder.advanceLine memory sources).result = .ok report) ∨
          ∀ plane, asksForInterrupt plane
            ((decoder.advanceLineTraces memory sources).get plane) = false)) := by
  have henter := interrupts_enterFrame decoder memory
  have hadvance := interrupts_advanceLine decoder memory sources
  exact ⟨⟨henter, henter.raised_eq_iff⟩, hadvance, hadvance.raised_eq_iff⟩

/-- Channel A selects a display control area that asks for an interrupt and then for the reserved
pixel depth. -/
def interruptThenReservedDepth : Memory := fun address ↦
  match address.toNat with
  | 0x400 => 0x30
  | 0x402 => 0x10
  | 0x1000 => 0x60
  | 0x1004 => 0x70
  | 0x1006 => 0x03
  | _ => 0

/-- The display is off, and both control areas of channel A are enabled. -/
def programsOfA : Decoder :=
  (((initial default).write (.system 0x12 0x0300)).enterFrame interruptThenReservedDepth).decoder

theorem reachable_programsOfA : programsOfA.Reachable :=
  ((Reachable.initial default).write (.system 0x12 0x0300)).enterFrame interruptThenReservedDepth

theorem showLine_programsOfA : ∃ frame,
    programsOfA.showLine (.both []) = ({ programsOfA with frame }, .ok (.both 0)) :=
  reachable_programsOfA.fitsFormat.showLine_of_disabled (by decide +kernel) _

theorem advanceLineTraces_programsOfA :
    programsOfA.advanceLineTraces interruptThenReservedDepth (.both []) =
      Schedule.channelTraces (Schedule.runDisplay interruptThenReservedDepth programsOfA.settings)
        (Schedule.displayTrace interruptThenReservedDepth programsOfA.settings)
        programsOfA.registers programsOfA.areas := by
  obtain ⟨frame, hshow⟩ := showLine_programsOfA
  exact advanceLineTraces_of_showLine hshow _

theorem result_advanceLine_programsOfA :
    (programsOfA.advanceLine interruptThenReservedDepth (.both [])).result =
      .error (.reservedPixelDepth .a 3) := by
  obtain ⟨frame, hshow⟩ := showLine_programsOfA
  have hran : (Schedule.runDisplayAreas interruptThenReservedDepth programsOfA.settings
      programsOfA.registers programsOfA.areas).requests =
        .error (.reservedPixelDepth .a 3) := by decide +kernel
  exact advanceLine_eq_error hshow hran

/-- A program that fails after its interrupt has latched the flag but raises nothing. -/
theorem advanceLine_loses_interrupt :
    programsOfA.Reachable ∧
      programsOfA.registers.system.interruptFlags.get .a = false ∧
      (programsOfA.advanceLine interruptThenReservedDepth
        (.both [])).decoder.registers.system.interruptFlags.get .a = true ∧
      (programsOfA.advanceLine interruptThenReservedDepth (.both [])).raised = [] ∧
      dueInterrupts programsOfA.settings
        (programsOfA.advanceLineTraces interruptThenReservedDepth (.both [])) = [4] := by
  have hstep := interrupts_advanceLine programsOfA interruptThenReservedDepth (.both [])
  have hraised := hstep.raised_of_error _ result_advanceLine_programsOfA
  refine ⟨reachable_programsOfA, by decide +kernel, ?_, hraised, ?_⟩
  · rw [hstep.latched .a, advanceLineTraces_programsOfA]
    decide +kernel
  · rw [advanceLineTraces_programsOfA]
    decide +kernel

end Decoder

end DualPlaneVideo
