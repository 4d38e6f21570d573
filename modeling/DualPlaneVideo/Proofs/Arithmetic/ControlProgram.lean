import DualPlaneVideo.Proofs.Arithmetic.Calculation
import DualPlaneVideo.Proofs.ControlProgram.DisplayTurn
import DualPlaneVideo.Proofs.ControlProgram.Failure

/-!
# The arithmetic of control programs

Instructions calculate little, and never more than a byte of an opcode and a few bits of an operand
allow. The length of a display control area is another matter: it is four times the budget that the
user has set, whatever that is, and overflows from a quarter of the address space on.
-/

namespace DualPlaneVideo

/-! ## Instructions -/

namespace RegisterFile

/-- The number of a register among those of its kind, and the place of a palette entry. -/
def loadCalculations (registers : RegisterFile) (channel : Plane) (opcode : UInt8) :
    List Calculation :=
  match ControlRegister.ofOpcode? opcode with
  | none => []
  | some register =>
    if registers.admits channel register then
      match register with
      | .paletteEntry offset =>
        [⟨.uint8, (opcode.toNat : Int) - 0x80⟩,
          ⟨.usize, (bitField registers.paletteBank.toNat 0 2 * 64 : Nat)⟩,
          ⟨.usize, Palette.indexInBank registers.paletteBank offset⟩]
      | .matteCommand _ => [⟨.uint8, (opcode.toNat : Int) - 0xD0⟩]
      | _ => []
    else []

theorem allFit_loadCalculations (registers : RegisterFile) (channel : Plane) (opcode : UInt8) :
    AllFit (registers.loadCalculations channel opcode) := by
  have hopcode := opcode.toNat_lt
  unfold loadCalculations
  split
  · exact allFit_nil
  · rename_i register hregister
    split
    · cases register with
      | paletteEntry offset =>
        obtain ⟨-, hplace⟩ := ControlRegister.toNat_of_ofOpcode?_paletteEntry hregister
        have hbank : bitField registers.paletteBank.toNat 0 2 < 4 := bitField_lt _ _ _
        have hoffset : bitField offset.toNat 0 6 < 64 := bitField_lt _ _ _
        simp only [allFit_cons, allFit_nil, and_true, Calculation.fits_uint8,
          Calculation.fits_usize, Palette.indexInBank]
        omega
      | matteCommand index =>
        have hplace := ControlRegister.ofOpcode?_eq_matteCommand_iff.mp hregister
        simp only [allFit_cons, allFit_nil, and_true, Calculation.fits_uint8]
        omega
      | _ => exact allFit_nil
    · exact allFit_nil

end RegisterFile

namespace ProgramRun

/-- The logarithm of a repeat count, unless the operand is refused, or what a register load
calculates. -/
def instructionCalculations (registers : RegisterFile) (channel : Plane) :
    Instruction → List Calculation
  | .loadParameters operand =>
    match (registers.parameters.get channel).load? operand with
    | none => []
    | some _ => [⟨.uint32, 1 + operand.field 2 2⟩]
  | .loadRegister opcode _ => registers.loadCalculations channel opcode
  | _ => []

theorem allFit_instructionCalculations (registers : RegisterFile) (channel : Plane)
    (instruction : Instruction) : AllFit (instructionCalculations registers channel instruction) := by
  cases instruction with
  | loadParameters operand =>
    rw [instructionCalculations]
    split
    · exact allFit_nil
    · have hfield : operand.field 2 2 < 4 := operand.field_lt 2 2
      simp only [allFit_cons, allFit_nil, and_true, Calculation.fits_uint32]
      omega
  | loadRegister opcode operand => exact registers.allFit_loadCalculations channel opcode
  | _ => exact allFit_nil

/-- A run of at most `budget` instructions. -/
def calculations (memory : Memory) (channel : Plane) (policy : CodingPolicy) (budget : Nat)
    (address : Word) (state : ProgramRun) : List Calculation :=
  match budget with
  | 0 => []
  | budget + 1 =>
    instructionCalculations state.registers channel (fetch memory address) ++
      match state.step memory channel policy address with
      | (_, .finish _) => []
      | (state, .goOn next) => calculations memory channel policy budget next state

/-- No instruction overflows, so no run does. -/
theorem allFit_calculations (memory : Memory) (channel : Plane) (policy : CodingPolicy)
    (budget : Nat) (address : Word) (state : ProgramRun) :
    AllFit (state.calculations memory channel policy budget address) := by
  induction budget generalizing address state with
  | zero => exact allFit_nil
  | succ budget ih =>
    rw [calculations, allFit_append]
    refine ⟨allFit_instructionCalculations _ _ _, ?_⟩
    split
    · exact allFit_nil
    · exact ih _ _

end ProgramRun

/-! ## Control areas -/

namespace Schedule

variable {memory : Memory} {settings : Settings} {registers : RegisterFile}
  {areas : PerPlane DisplayArea} {channel : Plane} {area : DisplayArea}

def initialCalculations (memory : Memory) (settings : Settings) (registers : RegisterFile)
    (channel : Plane) : List Calculation :=
  if registers.system.initialAreaEnabled channel then
    ProgramRun.calculations memory channel settings.policy settings.initialBudget.toNat
      (initialAddress channel) (.start registers)
  else []

theorem allFit_initialCalculations (memory : Memory) (settings : Settings)
    (registers : RegisterFile) (channel : Plane) :
    AllFit (initialCalculations memory settings registers channel) := by
  unfold initialCalculations
  split
  · exact ProgramRun.allFit_calculations _ _ _ _ _ _
  · exact allFit_nil

/-- The length of a display control area in bytes. -/
def areaProduct (settings : Settings) : Calculation := ⟨.uint32, 4 * settings.lineBudget.toNat⟩

theorem fits_areaProduct_iff : (areaProduct settings).Fits ↔ areaLength? settings ≠ none := by
  rw [areaProduct, Calculation.fits_uint32, areaLength?]
  split
  · rename_i hlength
    simp only [ne_eq, reduceCtorEq, not_false_eq_true, iff_true]
    omega
  · rename_i hlength
    simp only [ne_eq, not_true_eq_false, iff_false]
    omega

theorem fits_areaProduct_iff_lt :
    (areaProduct settings).Fits ↔ settings.lineBudget.toNat < 0x40000000 := by
  rw [areaProduct, Calculation.fits_uint32]
  omega

/-- A channel runs a display control area after a line if it has one and may. -/
structure RunsArea (registers : RegisterFile) (channel : Plane) (area : DisplayArea) : Prop where
  enabled : registers.system.displayAreaEnabled channel = true
  selected : area.next ≠ none
  running : area.halted = false

theorem runDisplay_of_not_runsArea (h : ¬ RunsArea registers channel area) :
    runDisplay memory settings registers channel area = ⟨registers, area, .ok .idle⟩ := by
  refine runDisplay_of_idle fun henabled hrunning ↦ ?_
  by_contra hselected
  exact h ⟨henabled, hselected, hrunning⟩

theorem runDisplay_areaTooLong_iff :
    (runDisplay memory settings registers channel area).request = .error .areaTooLong ↔
      areaLength? settings = none ∧ RunsArea registers channel area := by
  constructor
  · intro herror
    refine ⟨?_, ?_⟩
    · rcases runDisplay_error herror with ⟨-, hlength⟩ | ⟨value, hreserved⟩
      · exact hlength
      · cases hreserved
    · by_contra hidle
      rw [runDisplay_of_not_runsArea hidle] at herror
      cases herror
  · rintro ⟨hlength, hruns⟩
    obtain ⟨start, hstart⟩ := Option.ne_none_iff_exists'.mp hruns.selected
    simp [runDisplay, hruns.enabled, hruns.running, hstart, hlength]

/-- A length that overflows is the end of the first channel that runs an area. A channel that runs
none leaves the registers to the other one as they are. -/
theorem runDisplayAreas_areaTooLong_iff :
    (runDisplayAreas memory settings registers areas).requests = .error .areaTooLong ↔
      areaLength? settings = none ∧ ∃ channel, RunsArea registers channel (areas.get channel) := by
  constructor
  · intro herror
    rcases runChannels_eq_error herror with hfirst | ⟨request, hfirst, hsecond⟩
    · obtain ⟨hlength, hruns⟩ := runDisplay_areaTooLong_iff.mp hfirst
      exact ⟨hlength, .a, hruns⟩
    · obtain ⟨hlength, hruns⟩ := runDisplay_areaTooLong_iff.mp hsecond
      have hidle : ¬ RunsArea registers .a areas.a := by
        intro hrunsA
        rw [runDisplay_areaTooLong_iff.mpr ⟨hlength, hrunsA⟩] at hfirst
        cases hfirst
      rw [runDisplay_of_not_runsArea hidle] at hruns
      exact ⟨hlength, .b, hruns⟩
  · rintro ⟨hlength, channel, hruns⟩
    rw [runDisplayAreas]
    by_cases hrunsA : RunsArea registers .a areas.a
    · rw [runChannels_of_error (runDisplay_areaTooLong_iff.mpr ⟨hlength, hrunsA⟩)]
    · have hidle : runDisplay memory settings registers .a areas.a =
          ⟨registers, areas.a, .ok .idle⟩ := runDisplay_of_not_runsArea hrunsA
      have hrunsB : RunsArea registers .b areas.b := by
        cases channel with
        | a => exact absurd hruns hrunsA
        | b => exact hruns
      have hsecond : (runDisplay memory settings registers .b areas.b).request =
          .error .areaTooLong := runDisplay_areaTooLong_iff.mpr ⟨hlength, hrunsB⟩
      rw [runChannels_of_ok (congrArg ChannelResult.request hidle), hidle]
      dsimp only
      rw [hsecond]
      rfl

/-- The length is calculated before the program runs, and nothing is if it overflows. -/
def displayCalculations (memory : Memory) (settings : Settings) (registers : RegisterFile)
    (channel : Plane) (area : DisplayArea) : List Calculation :=
  if registers.system.displayAreaEnabled channel && !area.halted then
    match area.next, areaLength? settings with
    | none, _ => []
    | some _, none => [areaProduct settings]
    | some start, some _ =>
      areaProduct settings ::
        ProgramRun.calculations memory channel settings.policy settings.lineBudget.toNat start
          (.start registers)
  else []

theorem displayCalculations_of_not_runsArea (h : ¬ RunsArea registers channel area) :
    displayCalculations memory settings registers channel area = [] := by
  unfold displayCalculations
  split
  · rename_i hturn
    rw [Bool.and_eq_true, Bool.not_eq_true'] at hturn
    have hnext : area.next = none := by
      by_contra hselected
      exact h ⟨hturn.1, hselected, hturn.2⟩
    rw [hnext]
  · rfl

theorem overflows_displayCalculations_of_runsArea (h : RunsArea registers channel area)
    (calculation : Calculation) :
    Overflows (displayCalculations memory settings registers channel area) calculation ↔
      calculation = areaProduct settings ∧ areaLength? settings = none := by
  obtain ⟨start, hstart⟩ := Option.ne_none_iff_exists'.mp h.selected
  simp only [displayCalculations, h.enabled, h.running, hstart, Bool.not_false, Bool.and_self,
    if_true]
  cases hlength : areaLength? settings with
  | none =>
    have hover : ¬ (areaProduct settings).Fits := by
      rw [fits_areaProduct_iff, hlength]
      exact not_not_intro rfl
    rw [overflows_singleton]
    exact and_congr_right fun _ ↦ iff_of_true hover rfl
  | some length =>
    have hproduct : (areaProduct settings).Fits := by
      rw [fits_areaProduct_iff, hlength]
      exact Option.some_ne_none length
    have hall := allFit_cons.mpr ⟨hproduct, ProgramRun.allFit_calculations memory channel
      settings.policy settings.lineBudget.toNat start (.start registers)⟩
    exact iff_of_false hall.not_overflows (by simp)

/-- A channel's turn overflows exactly where it is refused for the length of its area. -/
theorem overflows_displayCalculations_iff (memory : Memory) (settings : Settings)
    (registers : RegisterFile) (channel : Plane) (area : DisplayArea) (calculation : Calculation) :
    Overflows (displayCalculations memory settings registers channel area) calculation ↔
      calculation = areaProduct settings ∧
        (runDisplay memory settings registers channel area).request = .error .areaTooLong := by
  rw [runDisplay_areaTooLong_iff]
  by_cases hruns : RunsArea registers channel area
  · rw [overflows_displayCalculations_of_runsArea hruns, and_iff_left hruns]
  · rw [displayCalculations_of_not_runsArea hruns]
    exact iff_of_false allFit_nil.not_overflows fun h ↦ hruns h.2.2

/-- Both channels, the second one unless the first has failed. -/
def channelCalculations (turn : RegisterFile → Plane → DisplayArea → ChannelResult)
    (calculations : RegisterFile → Plane → DisplayArea → List Calculation)
    (registers : RegisterFile) (areas : PerPlane DisplayArea) : List Calculation :=
  let first := turn registers .a areas.a
  calculations registers .a areas.a ++
    match first.request with
    | .error _ => []
    | .ok _ => calculations first.registers .b areas.b

section Channels

variable {turn : RegisterFile → Plane → DisplayArea → ChannelResult}
  {calculations : RegisterFile → Plane → DisplayArea → List Calculation}
  {exception : Calculation} {failure : Failure}

theorem allFit_channelCalculations
    (h : ∀ registers channel area, AllFit (calculations registers channel area))
    (registers : RegisterFile) (areas : PerPlane DisplayArea) :
    AllFit (channelCalculations turn calculations registers areas) := by
  rw [channelCalculations, allFit_append]
  refine ⟨h _ _ _, ?_⟩
  split
  · exact allFit_nil
  · exact h _ _ _

/-- A failure of the schedule is the failure of a channel that has had its turn. -/
theorem overflows_channelCalculations_iff {calculation : Calculation}
    (h : ∀ registers channel area, Overflows (calculations registers channel area) calculation ↔
      calculation = exception ∧ (turn registers channel area).request = .error failure)
    (registers : RegisterFile) (areas : PerPlane DisplayArea) :
    Overflows (channelCalculations turn calculations registers areas) calculation ↔
      calculation = exception ∧ (runChannels turn registers areas).requests = .error failure := by
  have hfirst := h registers .a areas.a
  rw [channelCalculations, overflows_append, hfirst]
  cases hrequest : (turn registers .a areas.a).request with
  | error cause =>
    rw [runChannels_of_error hrequest]
    simp [allFit_nil.not_overflows]
  | ok request =>
    rw [runChannels_of_ok hrequest]
    dsimp only
    rw [h]
    cases (turn (turn registers .a areas.a).registers .b areas.b).request with
    | error cause => simp [Except.map]
    | ok request => simp [Except.map]

end Channels

end Schedule

end DualPlaneVideo
