import DualPlaneVideo.Proofs.ControlProgram.Fetching
import DualPlaneVideo.Proofs.ControlProgram.Isolation
import DualPlaneVideo.Proofs.VideoRam

/-!
# The turn of a channel after a line

After a line a channel fetches from its display control area, if it has one and is not halted. What
it fetches settles where its next area starts and whether it is halted from then on.
-/

namespace DualPlaneVideo

namespace Schedule

/-- Where the next area starts after a line that has fetched this: at the last area selected, or else
behind an area of the budget's length. -/
def nextArea (start : Word) (budget : Nat) (fetched : List Fetched) : Word :=
  (lastDisplayArea fetched).getD (addressAt (start.toNat + 4 * budget))

variable {memory : Memory} {settings : Settings} {registers : RegisterFile} {channel : Plane}
  {area : DisplayArea}

theorem wrapAddress_add_areaLength {start length : Word} (h : areaLength? settings = some length) :
    wrapAddress (start + length) = addressAt (start.toNat + 4 * settings.lineBudget.toNat) := by
  unfold areaLength? at h
  split at h
  · cases h
    have hmul : settings.lineBudget * 4 = (4 * settings.lineBudget.toNat).toUInt32 := by
      rw [← UInt32.toNat_inj, UInt32.toNat_mul, Nat.toUInt32, UInt32.toNat_ofNat', Nat.mul_comm]
      rfl
    rw [hmul, wrapAddress_add]
  · cases h

/-- What a channel fetches from its display control area. -/
def displayFetches (memory : Memory) (settings : Settings) (registers : RegisterFile)
    (channel : Plane) (area : DisplayArea) : List Fetched :=
  if registers.system.displayAreaEnabled channel && !area.halted then
    match area.next, areaLength? settings with
    | some start, some _ =>
      ProgramRun.fetches memory channel settings.policy settings.lineBudget.toNat start
        (.start registers)
    | _, _ => []
  else []

/-- Where a channel leaves its area when its turn does not fail. -/
def passedArea (settings : Settings) (registers : RegisterFile) (channel : Plane)
    (fetched : List Fetched) (area : DisplayArea) : DisplayArea :=
  match area.next with
  | some start =>
    if registers.system.displayAreaEnabled channel && !area.halted then
      ⟨some (nextArea start settings.lineBudget.toNat fetched), decide (HasStop fetched)⟩
    else area
  | none => area

/-- The ways in which the turn of a channel comes out, with what it fetches in each of them. -/
inductive DisplayTurn (memory : Memory) (settings : Settings) (registers : RegisterFile)
    (channel : Plane) : DisplayArea → ChannelResult → List Fetched → Prop where
  | idle {area : DisplayArea}
      (h : registers.system.displayAreaEnabled channel = true → area.halted = false →
        area.next = none) :
      DisplayTurn memory settings registers channel area ⟨registers, area, .ok .idle⟩ []
  | tooLong {area : DisplayArea} :
      DisplayTurn memory settings registers channel area
        ⟨registers, area, .error .areaTooLong⟩ []
  | failed {start : Word} {after : ProgramRun} {failure : Failure} {fetched : List Fetched}
      (hfetched : fetched = ProgramRun.fetches memory channel settings.policy
        settings.lineBudget.toNat start (.start registers))
      (hstop : ¬ HasStop fetched) :
      DisplayTurn memory settings registers channel ⟨some start, false⟩
        ⟨after.registers, ⟨some start, false⟩, .error failure⟩ fetched
  | finished {start : Word} {after : ProgramRun} {halted : Bool} {fetched : List Fetched}
      (hfetched : fetched = ProgramRun.fetches memory channel settings.policy
        settings.lineBudget.toNat start (.start registers))
      (hstop : halted = true ↔ HasStop fetched)
      (hcursor : after.readCursor = lastReadCursor fetched) :
      DisplayTurn memory settings registers channel ⟨some start, false⟩
        ⟨after.registers, ⟨some (nextArea start settings.lineBudget.toNat fetched), halted⟩,
          .ok (.ofRun after)⟩ fetched

theorem displayTurn (memory : Memory) (settings : Settings) (registers : RegisterFile)
    (channel : Plane) (area : DisplayArea) :
    DisplayTurn memory settings registers channel area
      (runDisplay memory settings registers channel area)
      (displayFetches memory settings registers channel area) := by
  unfold runDisplay displayFetches
  dsimp only
  split
  · rename_i hruns
    rw [Bool.and_eq_true, Bool.not_eq_true'] at hruns
    obtain ⟨next, halted⟩ := area
    obtain rfl : halted = false := hruns.2
    cases next with
    | none => exact .idle fun _ _ ↦ rfl
    | some start =>
      cases hlength : areaLength? settings with
      | none => exact .tooLong
      | some length =>
        have harea := ProgramRun.displayArea_run memory channel settings.policy
          settings.lineBudget.toNat start registers
        have hcursor := ProgramRun.readCursor_run memory channel settings.policy
          settings.lineBudget.toNat start registers
        have hstop := ProgramRun.run_eq_stopped_iff memory channel settings.policy
          settings.lineBudget.toNat start (.start registers)
        rcases hrun : ProgramRun.run memory channel settings.policy settings.lineBudget.toNat start
          (.start registers) with ⟨after, ending⟩
        rw [hrun] at harea hcursor hstop
        dsimp only at harea hcursor hstop ⊢
        rw [hrun, wrapAddress_add_areaLength hlength]
        dsimp only
        rw [harea]
        cases ending with
        | failed failure => exact .failed rfl (by rw [← hstop]; exact RunEnd.noConfusion)
        | stopped => exact .finished rfl (iff_of_true rfl (hstop.mp rfl)) hcursor
        | exhausted =>
          refine .finished rfl (iff_of_false Bool.false_ne_true ?_) hcursor
          rw [← hstop]
          exact RunEnd.noConfusion
        | redirected =>
          refine .finished rfl (iff_of_false Bool.false_ne_true ?_) hcursor
          rw [← hstop]
          exact RunEnd.noConfusion
  · rename_i hruns
    refine .idle fun henabled hhalted ↦ ?_
    rw [henabled, hhalted] at hruns
    exact absurd rfl hruns

/-- A channel without an area to run does nothing. -/
theorem runDisplay_of_idle
    (h : registers.system.displayAreaEnabled channel = true → area.halted = false →
      area.next = none) :
    runDisplay memory settings registers channel area = ⟨registers, area, .ok .idle⟩ := by
  unfold runDisplay
  dsimp only
  split
  · rename_i hruns
    rw [Bool.and_eq_true, Bool.not_eq_true'] at hruns
    rw [h hruns.1 hruns.2]
  · rfl

/-- An area that is too long leaves every area where it is. -/
theorem area_runDisplay_of_tooLong (h : areaLength? settings = none) :
    (runDisplay memory settings registers channel area).area = area := by
  unfold runDisplay
  rw [h]
  dsimp only
  split
  · cases area.next <;> rfl
  · rfl

namespace DisplayTurn

variable {result other : ChannelResult} {fetched : List Fetched} {request : ProgramRequest}

/-- A channel that is halted does nothing. -/
theorem of_halted (turn : DisplayTurn memory settings registers channel area result fetched)
    (h : area.halted = true) : fetched = [] ∧ result.area = area := by
  cases turn with
  | idle _ => exact ⟨rfl, rfl⟩
  | tooLong => exact ⟨rfl, rfl⟩
  | failed _ _ => cases h
  | finished _ _ _ => cases h

/-- A stop instruction halts its channel. -/
theorem halted_of_hasStop
    (turn : DisplayTurn memory settings registers channel area result fetched)
    (h : HasStop fetched) : result.area.halted = true := by
  cases turn with
  | idle _ => exact absurd h not_hasStop_nil
  | tooLong => exact absurd h not_hasStop_nil
  | failed _ hstop => exact absurd h hstop
  | finished _ hstop _ => exact hstop.mpr h

/-- A turn that does not fail reports the read cursor that it fetched last. -/
theorem readCursor_eq (turn : DisplayTurn memory settings registers channel area result fetched)
    (hok : result.request = .ok request) : request.readCursor = lastReadCursor fetched := by
  cases turn with
  | idle _ =>
    cases hok
    rfl
  | tooLong => cases hok
  | failed _ _ => cases hok
  | finished _ _ hcursor =>
    cases hok
    exact hcursor

/-- An enabled channel with an area takes its instructions from there, and the next area is either
the last one that it selects or the one that follows. -/
theorem of_enabled {start : Word}
    (turn : DisplayTurn memory settings registers channel ⟨some start, false⟩ result fetched)
    (hok : result.request = .ok request)
    (henabled : registers.system.displayAreaEnabled channel = true) :
    fetched = ProgramRun.fetches memory channel settings.policy settings.lineBudget.toNat start
        (.start registers) ∧
      result.area.next = some (nextArea start settings.lineBudget.toNat fetched) ∧
      (result.area.halted = true ↔ HasStop fetched) := by
  cases turn with
  | idle h => cases h henabled rfl
  | tooLong => cases hok
  | failed _ _ => cases hok
  | finished hfetched hstop _ => exact ⟨hfetched, rfl, hstop⟩

/-- Two turns on the same area fetch the same and leave the same area, whatever they find in
registers, unless one of them fails or is not enabled. -/
theorem eq_of_enabled {otherSettings : Settings} {others : RegisterFile} {otherFetched : List Fetched}
    {otherRequest : ProgramRequest}
    (turn : DisplayTurn memory settings registers channel area result fetched)
    (hok : result.request = .ok request)
    (henabled : registers.system.displayAreaEnabled channel = true)
    (otherTurn : DisplayTurn memory otherSettings others channel area other otherFetched)
    (hotherOk : other.request = .ok otherRequest)
    (hotherEnabled : others.system.displayAreaEnabled channel = true)
    (hbudget : otherSettings.lineBudget = settings.lineBudget) :
    otherFetched = fetched ∧ other.area = result.area := by
  cases turn with
  | tooLong => cases hok
  | failed _ _ => cases hok
  | idle hidle =>
    cases otherTurn with
    | tooLong => cases hotherOk
    | failed _ _ => cases hotherOk
    | idle _ => exact ⟨rfl, rfl⟩
    | finished _ _ _ => cases hidle henabled rfl
  | finished hfetched hstop _ =>
    obtain ⟨hotherFetched, hnext, hotherStop⟩ := otherTurn.of_enabled hotherOk hotherEnabled
    have hsame : otherFetched = fetched := by
      rw [hotherFetched, hfetched, hbudget]
      exact ProgramRun.fetches_congr memory _ _ _ _ _ _
    refine ⟨hsame, ?_⟩
    rw [hsame, hbudget] at hnext
    rw [hsame, ← hstop] at hotherStop
    rw [DisplayArea.mk.injEq]
    exact ⟨hnext, Bool.eq_iff_iff.mpr hotherStop⟩

/-- A turn that fails leaves the area where it is. -/
theorem area_of_error {failure : Failure}
    (turn : DisplayTurn memory settings registers channel area result fetched)
    (herror : result.request = .error failure) : result.area = area := by
  cases turn with
  | idle _ => cases herror
  | tooLong => rfl
  | failed _ _ => rfl
  | finished _ _ _ => cases herror

/-- The first instruction of a turn is the first of the area. -/
theorem start_of_head {first : Fetched}
    (turn : DisplayTurn memory settings registers channel area result fetched)
    (hfirst : first ∈ fetched.head?) : area = ⟨some first.address, false⟩ := by
  cases turn with
  | idle _ => cases hfirst
  | tooLong => cases hfirst
  | failed hfetched _ =>
    rw [hfetched] at hfirst
    rw [ProgramRun.address_of_head hfirst]
  | finished hfetched _ _ =>
    rw [hfetched] at hfirst
    rw [ProgramRun.address_of_head hfirst]

end DisplayTurn

/-- A turn that does not fail passes its area. -/
theorem area_runDisplay_of_ok {request : ProgramRequest}
    (hok : (runDisplay memory settings registers channel area).request = .ok request) :
    (runDisplay memory settings registers channel area).area =
      passedArea settings registers channel
        (displayFetches memory settings registers channel area) area := by
  have hturn := displayTurn memory settings registers channel area
  obtain ⟨next, halted⟩ := area
  cases next with
  | none => rw [runDisplay_of_idle fun _ _ ↦ rfl, passedArea]
  | some start =>
    rw [passedArea]
    dsimp only
    split
    · rename_i hruns
      rw [Bool.and_eq_true, Bool.not_eq_true'] at hruns
      obtain ⟨henabled, rfl⟩ := hruns
      obtain ⟨-, hnext, hstop⟩ := hturn.of_enabled hok henabled
      rw [DisplayArea.mk.injEq]
      exact ⟨hnext, by rw [Bool.eq_iff_iff, hstop, decide_eq_true_iff]⟩
    · rename_i hidle
      rw [runDisplay_of_idle fun henabled hhalted ↦ ?_]
      dsimp only at hhalted
      rw [henabled, hhalted] at hidle
      exact absurd rfl hidle

/-! ## Both channels -/

/-- The registers that a channel finds at its turn. Channel B has none after a failure of
channel A. -/
def registersAt? (turn : RegisterFile → Plane → DisplayArea → ChannelResult)
    (registers : RegisterFile) (areas : PerPlane DisplayArea) : Plane → Option RegisterFile
  | .a => some registers
  | .b =>
    match (turn registers .a areas.a).request with
    | .error _ => none
    | .ok _ => some (turn registers .a areas.a).registers

variable {turn : RegisterFile → Plane → DisplayArea → ChannelResult}
  {areas : PerPlane DisplayArea} {plane : Plane}

/-- A channel that starts a frame is not halted. -/
theorem halted_runInitial (memory : Memory) (settings : Settings) (registers : RegisterFile)
    (channel : Plane) (area : DisplayArea) :
    (runInitial memory settings registers channel area).area.halted = false := by
  unfold runInitial
  split <;> rfl

theorem get_areas_runChannels (turn : RegisterFile → Plane → DisplayArea → ChannelResult)
    (registers : RegisterFile) (areas : PerPlane DisplayArea) (plane : Plane) :
    (runChannels turn registers areas).areas.get plane =
      match registersAt? turn registers areas plane with
      | none => areas.get plane
      | some found => (turn found plane (areas.get plane)).area := by
  unfold runChannels registersAt?
  dsimp only
  cases plane with
  | a => cases (turn registers .a areas.a).request <;> rfl
  | b => cases (turn registers .a areas.a).request <;> rfl

/-- Where the schedule succeeds, both channels have had their turn. -/
theorem runChannels_eq_ok {requests : PerPlane ProgramRequest}
    (hok : (runChannels turn registers areas).requests = .ok requests) (plane : Plane) :
    ∃ found, registersAt? turn registers areas plane = some found ∧
      (turn found plane (areas.get plane)).request = .ok (requests.get plane) := by
  unfold runChannels at hok
  dsimp only at hok
  cases hfirst : (turn registers .a areas.a).request with
  | error failure =>
    simp only [hfirst] at hok
    cases hok
  | ok requestA =>
    simp only [hfirst] at hok
    cases hsecond : (turn (turn registers .a areas.a).registers .b areas.b).request with
    | error failure =>
      rw [hsecond] at hok
      cases hok
    | ok requestB =>
      rw [hsecond] at hok
      cases hok
      cases plane with
      | a => exact ⟨registers, rfl, hfirst⟩
      | b =>
        refine ⟨(turn registers .a areas.a).registers, ?_, hsecond⟩
        simp only [registersAt?, hfirst]

/-- The schedule depends on the turns that the channels have, and on no others. -/
theorem runChannels_congr {other : RegisterFile → Plane → DisplayArea → ChannelResult}
    (h : ∀ plane found, registersAt? turn registers areas plane = some found →
      other found plane (areas.get plane) = turn found plane (areas.get plane)) :
    runChannels other registers areas = runChannels turn registers areas := by
  have hfirst : other registers .a areas.a = turn registers .a areas.a := h .a registers rfl
  unfold runChannels
  dsimp only
  rw [hfirst]
  cases hrequest : (turn registers .a areas.a).request with
  | error failure => rfl
  | ok requestA =>
    have hfound : registersAt? turn registers areas .b =
        some (turn registers .a areas.a).registers := by
      simp only [registersAt?, hrequest]
    have hsecond : other (turn registers .a areas.a).registers .b areas.b =
        turn (turn registers .a areas.a).registers .b areas.b := h .b _ hfound
    dsimp only
    rw [hsecond]

/-- At its turn a channel finds the bus registers as they were. -/
theorem busRegisters_registersAt? {found : RegisterFile}
    (h : registersAt? (runDisplay memory settings) registers areas plane = some found) :
    found.busRegisters = registers.busRegisters := by
  cases plane with
  | a =>
    cases h
    rfl
  | b =>
    unfold registersAt? at h
    dsimp only at h
    split at h
    · cases h
    · cases h
      exact runDisplay_keeps (RegisterFile.keptBy_busRegisters .a settings.policy _) rfl

end Schedule

end DualPlaneVideo
