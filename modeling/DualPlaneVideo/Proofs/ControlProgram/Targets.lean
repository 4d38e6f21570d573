import DualPlaneVideo.Proofs.ControlProgram.DisplayTurn
import DualPlaneVideo.Proofs.VideoRam

/-!
# Targets of control programs

A control program selects display control areas and image data inside video memory only, whatever
the words that it consists of. The area of the next line, where a program selects none, wraps into
memory as well.
-/

namespace DualPlaneVideo

/-- The address is one of video memory, without any wrapping. -/
def InRam (address : Word) : Prop := address.toNat < ramSize

instance (address : Word) : Decidable (InRam address) := inferInstanceAs (Decidable (_ < _))

theorem inRam_wrapAddress (address : Word) : InRam (wrapAddress address) := by
  rw [InRam, toNat_wrapAddress]
  exact Nat.mod_lt _ (by decide)

/-- What a channel has selected for its next lines is in memory. -/
def DisplayArea.InRam (area : DisplayArea) : Prop :=
  ∀ start ∈ area.next, DualPlaneVideo.InRam start

/-- What a channel's run asks to be read from is in memory. -/
def ProgramRequest.InRam (request : ProgramRequest) : Prop :=
  ∀ cursor ∈ request.readCursor, DualPlaneVideo.InRam cursor

namespace ProgramRun

/-- The addresses that the run has selected are in memory. -/
structure TargetsInRam (run : ProgramRun) : Prop where
  displayArea : ∀ start ∈ run.displayArea, InRam start
  readCursor : ∀ cursor ∈ run.readCursor, InRam cursor

variable {channel : Plane} {policy : CodingPolicy}

theorem targetsInRam_start (registers : RegisterFile) : (start registers).TargetsInRam where
  displayArea := by simp [start]
  readCursor := by simp [start]

/-- The address of an instruction is wrapped when the instruction is decoded. -/
theorem inRam_displayArea {word area : Word} {thenStop : Bool}
    (h : Instruction.ofWord word = .loadDisplayArea area thenStop) : InRam area := by
  unfold Instruction.ofWord at h
  dsimp only at h
  split at h
  all_goals cases h
  all_goals exact inRam_wrapAddress _

theorem inRam_readCursor {word cursor : Word}
    (h : Instruction.ofWord word = .loadReadCursor cursor) : InRam cursor := by
  unfold Instruction.ofWord at h
  dsimp only at h
  split at h
  all_goals cases h
  exact inRam_wrapAddress _

theorem TargetsInRam.execute {state : ProgramRun} (h : state.TargetsInRam) (next word : Word) :
    (state.execute channel policy next (.ofWord word)).1.TargetsInRam := by
  cases hinstruction : Instruction.ofWord word with
  | loadDisplayArea area thenStop =>
    refine ⟨?_, h.readCursor⟩
    rintro start ⟨⟩
    exact inRam_displayArea hinstruction
  | loadReadCursor cursor =>
    refine ⟨h.displayArea, ?_⟩
    rintro loaded ⟨⟩
    exact inRam_readCursor hinstruction
  | interrupt =>
    simp only [ProgramRun.execute, interrupt]
    split
    · exact h
    · exact ⟨h.displayArea, h.readCursor⟩
  | loadParameters operand =>
    simp only [ProgramRun.execute, ProgramRun.loadParameters]
    cases (state.registers.parameters.get channel).load? operand with
    | none => exact h
    | some loaded => exact ⟨h.displayArea, h.readCursor⟩
  | loadRegister opcode operand => exact ⟨h.displayArea, h.readCursor⟩
  | stop => exact h
  | noOperation => exact h
  | jump target => exact h

theorem TargetsInRam.run {state : ProgramRun} (h : state.TargetsInRam) (memory : Memory)
    (budget : Nat) (address : Word) (channel : Plane) (policy : CodingPolicy) :
    (run memory channel policy budget address state).1.TargetsInRam := by
  induction budget generalizing address state with
  | zero => exact h
  | succ budget ih =>
    have hstep : (state.step memory channel policy address).1.TargetsInRam := h.execute _ _
    unfold ProgramRun.run
    rcases hrun : state.step memory channel policy address with ⟨after, next | ending⟩
    · rw [hrun] at hstep
      exact ih hstep next
    · rw [hrun] at hstep
      exact hstep

end ProgramRun

/-- What a channel's turn leaves is in memory. -/
structure ChannelResult.InRam (result : ChannelResult) : Prop where
  area : result.area.InRam
  request : ∀ request, result.request = .ok request → request.InRam

/-- What both channels' turns leave is in memory. -/
structure ScheduleResult.InRam (result : ScheduleResult) : Prop where
  areas : ∀ plane, (result.areas.get plane).InRam
  requests : ∀ requests, result.requests = .ok requests → ∀ plane, (requests.get plane).InRam

namespace Schedule

variable {memory : Memory} {settings : Settings} {registers : RegisterFile} {channel : Plane}
  {area : DisplayArea} {areas : PerPlane DisplayArea}

theorem inRam_idle : ProgramRequest.idle.InRam := by
  rintro cursor ⟨⟩

theorem inRam_runInitial (h : area.InRam) :
    (runInitial memory settings registers channel area).InRam := by
  unfold runInitial
  split
  · have hrun := (ProgramRun.targetsInRam_start registers).run memory settings.initialBudget.toNat
      (initialAddress channel) channel settings.policy
    rcases hends : ProgramRun.run memory channel settings.policy settings.initialBudget.toNat
      (initialAddress channel) (.start registers) with ⟨after, ending⟩
    rw [hends] at hrun
    constructor
    · intro start hstart
      cases hselected : after.displayArea with
      | none =>
        simp only [hselected] at hstart
        exact h start hstart
      | some selected =>
        simp only [hselected] at hstart
        cases hstart
        exact hrun.displayArea start hselected
    · intro request hrequest
      dsimp only at hrequest
      split at hrequest
      · cases hrequest
      · cases hrequest
        exact hrun.readCursor
  · refine ⟨h, ?_⟩
    rintro request ⟨⟩
    exact inRam_idle

/-- The area that follows, where the program selects none, is wrapped into memory. -/
theorem inRam_runDisplay (h : area.InRam) :
    (runDisplay memory settings registers channel area).InRam := by
  have hidle : ChannelResult.InRam ⟨registers, area, .ok .idle⟩ := by
    refine ⟨h, ?_⟩
    rintro request ⟨⟩
    exact inRam_idle
  unfold runDisplay
  dsimp only
  split
  · split
    · exact hidle
    · exact ⟨h, by rintro request ⟨⟩⟩
    · rename_i start length _ _
      have hrun := (ProgramRun.targetsInRam_start registers).run memory settings.lineBudget.toNat
        start channel settings.policy
      rcases hends : ProgramRun.run memory channel settings.policy settings.lineBudget.toNat start
        (.start registers) with ⟨after, ending⟩
      rw [hends] at hrun
      have hnext : DualPlaneVideo.InRam
          (after.displayArea.getD (wrapAddress (start + length))) := by
        cases hselected : after.displayArea with
        | none => exact inRam_wrapAddress _
        | some selected => exact hrun.displayArea selected hselected
      have hfinished (halted : Bool) : ChannelResult.InRam ⟨after.registers,
          ⟨some (after.displayArea.getD (wrapAddress (start + length))), halted⟩,
            .ok (.ofRun after)⟩ := by
        constructor
        · rintro next ⟨⟩
          exact hnext
        · rintro request ⟨⟩
          exact hrun.readCursor
      cases ending with
      | failed failure => exact ⟨h, by rintro request ⟨⟩⟩
      | stopped => exact hfinished true
      | exhausted => exact hfinished false
      | redirected => exact hfinished false
  · exact hidle

/-- The schedule stays in memory if every turn of a channel does. -/
theorem inRam_runChannels {turn : RegisterFile → Plane → DisplayArea → ChannelResult}
    (hturn : ∀ registers channel area, area.InRam → (turn registers channel area).InRam)
    (h : ∀ plane, (areas.get plane).InRam) : (runChannels turn registers areas).InRam where
  areas plane := by
    rw [get_areas_runChannels]
    split
    · exact h plane
    · exact (hturn _ plane _ (h plane)).area
  requests requests hok plane := by
    obtain ⟨found, -, hrequest⟩ := runChannels_eq_ok hok plane
    exact (hturn found plane _ (h plane)).request _ hrequest

theorem inRam_runInitialAreas (memory : Memory) (settings : Settings) (registers : RegisterFile)
    (h : ∀ plane, (areas.get plane).InRam) :
    (runInitialAreas memory settings registers areas).InRam :=
  inRam_runChannels (fun _ _ _ harea ↦ inRam_runInitial harea) h

theorem inRam_runDisplayAreas (memory : Memory) (settings : Settings) (registers : RegisterFile)
    (h : ∀ plane, (areas.get plane).InRam) :
    (runDisplayAreas memory settings registers areas).InRam :=
  inRam_runChannels (fun _ _ _ harea ↦ inRam_runDisplay harea) h

end Schedule

end DualPlaneVideo
