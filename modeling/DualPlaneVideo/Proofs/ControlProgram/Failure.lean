import DualPlaneVideo.ControlProgram.Schedule

/-!
# Why control programs fail

A control program only ever fails where it selects the reserved pixel depth. Apart from that, a
display control area does not run when its length has no place in an address.
-/

namespace DualPlaneVideo

namespace ProgramRun

variable {memory : Memory} {channel : Plane} {policy : CodingPolicy} {state : ProgramRun}
  {failure : Failure}

theorem loadParameters_eq_error {operand : Word}
    (h : state.loadParameters channel operand = .error failure) :
    ∃ value, failure = .reservedPixelDepth channel value := by
  unfold loadParameters at h
  split at h
  · exact ⟨_, (Except.error.inj h).symm⟩
  · cases h

theorem execute_failed {next : Word} {instruction : Instruction}
    (h : (state.execute channel policy next instruction).2 = .finish (.failed failure)) :
    ∃ value, failure = .reservedPixelDepth channel value := by
  cases instruction with
  | stop => cases h
  | noOperation => cases h
  | loadDisplayArea area thenStop => cases thenStop <;> cases h
  | jump target => cases h
  | loadReadCursor cursor => cases h
  | interrupt => cases h
  | loadParameters operand =>
    cases hload : state.loadParameters channel operand with
    | error cause =>
      simp only [execute, hload] at h
      cases h
      exact loadParameters_eq_error hload
    | ok after =>
      simp only [execute, hload] at h
      cases h
  | loadRegister opcode operand => cases h

/-- The end of a run is the end of its last step. -/
theorem run_failed {budget : Nat} {address : Word}
    (h : (state.run memory channel policy budget address).2 = .failed failure) :
    ∃ value, failure = .reservedPixelDepth channel value := by
  induction budget generalizing address state with
  | zero => cases h
  | succ budget ih =>
    unfold run at h
    rcases hstep : state.step memory channel policy address with ⟨after, next | ending⟩
    · simp only [hstep] at h
      exact ih h
    · simp only [hstep] at h
      subst h
      exact execute_failed (congrArg Prod.snd hstep)

end ProgramRun

namespace Schedule

variable {memory : Memory} {settings : Settings} {registers : RegisterFile}
  {areas : PerPlane DisplayArea} {channel : Plane} {area : DisplayArea} {failure : Failure}

theorem runInitial_error
    (h : (runInitial memory settings registers channel area).request = .error failure) :
    ∃ value, failure = .reservedPixelDepth channel value := by
  unfold runInitial at h
  split at h
  · rcases hrun : ProgramRun.run memory channel settings.policy settings.initialBudget.toNat
      (initialAddress channel) (.start registers) with ⟨after, ending⟩
    simp only [hrun] at h
    cases ending with
    | failed cause =>
      cases h
      exact ProgramRun.run_failed (congrArg Prod.snd hrun)
    | exhausted => cases h
    | stopped => cases h
    | redirected => cases h
  · cases h

theorem runDisplay_error
    (h : (runDisplay memory settings registers channel area).request = .error failure) :
    failure = .areaTooLong ∧ areaLength? settings = none ∨
      ∃ value, failure = .reservedPixelDepth channel value := by
  unfold runDisplay at h
  dsimp only at h
  split at h
  · split at h
    · cases h
    · rename_i hlength
      exact .inl ⟨(Except.error.inj h).symm, hlength⟩
    · rename_i start length _ _
      rcases hrun : ProgramRun.run memory channel settings.policy settings.lineBudget.toNat start
        (.start registers) with ⟨after, ending⟩
      simp only [hrun] at h
      cases ending with
      | failed cause =>
        cases h
        exact .inr (ProgramRun.run_failed (congrArg Prod.snd hrun))
      | exhausted => cases h
      | stopped => cases h
      | redirected => cases h
  · cases h

section Channels

variable {turn : RegisterFile → Plane → DisplayArea → ChannelResult}

/-- Channel A alone decides whether channel B has its turn. -/
theorem runChannels_of_error (h : (turn registers .a areas.a).request = .error failure) :
    runChannels turn registers areas =
      { registers := (turn registers .a areas.a).registers
        areas := { areas with a := (turn registers .a areas.a).area }
        requests := .error failure } := by
  simp only [runChannels, h]

theorem runChannels_of_ok {requestA : ProgramRequest}
    (h : (turn registers .a areas.a).request = .ok requestA) :
    let second := turn (turn registers .a areas.a).registers .b areas.b
    runChannels turn registers areas =
      { registers := second.registers
        areas := ⟨(turn registers .a areas.a).area, second.area⟩
        requests := second.request.map fun requestB ↦ ⟨requestA, requestB⟩ } := by
  simp only [runChannels, h]

/-- A failure of the schedule is that of channel A, or that of channel B once channel A has had its
turn. -/
theorem runChannels_eq_error
    (h : (runChannels turn registers areas).requests = .error failure) :
    (turn registers .a areas.a).request = .error failure ∨
      ∃ requestA, (turn registers .a areas.a).request = .ok requestA ∧
        (turn (turn registers .a areas.a).registers .b areas.b).request = .error failure := by
  cases hfirst : (turn registers .a areas.a).request with
  | error cause =>
    rw [runChannels_of_error hfirst] at h
    cases h
    exact .inl rfl
  | ok requestA =>
    rw [runChannels_of_ok hfirst] at h
    refine .inr ⟨requestA, rfl, ?_⟩
    cases hsecond : (turn (turn registers .a areas.a).registers .b areas.b).request with
    | error cause =>
      rw [hsecond] at h
      cases h
      rfl
    | ok requestB =>
      rw [hsecond] at h
      cases h

/-- A failure of the schedule is the failure of some channel's turn. -/
theorem runChannels_error
    (h : (runChannels turn registers areas).requests = .error failure) :
    ∃ registers channel area, (turn registers channel area).request = .error failure := by
  rcases runChannels_eq_error h with hfirst | ⟨requestA, -, hsecond⟩
  · exact ⟨_, _, _, hfirst⟩
  · exact ⟨_, _, _, hsecond⟩

end Channels

theorem runInitialAreas_error
    (h : (runInitialAreas memory settings registers areas).requests = .error failure) :
    ∃ channel value, failure = .reservedPixelDepth channel value := by
  obtain ⟨_, channel, _, hturn⟩ := runChannels_error h
  exact ⟨channel, runInitial_error hturn⟩

theorem runDisplayAreas_error
    (h : (runDisplayAreas memory settings registers areas).requests = .error failure) :
    failure = .areaTooLong ∨ ∃ channel value, failure = .reservedPixelDepth channel value := by
  obtain ⟨_, channel, _, hturn⟩ := runChannels_error h
  rcases runDisplay_error hturn with ⟨hlong, -⟩ | hreserved
  · exact .inl hlong
  · exact .inr ⟨channel, hreserved⟩

end Schedule

end DualPlaneVideo
