import DualPlaneVideo.Proofs.ControlProgram.DisplayTurn
import DualPlaneVideo.Proofs.Decoder.Registers

/-!
# Display control areas over a frame

In the course of a frame each channel works through its display control areas, one after every line.
Where they lie depends only on what the channel itself fetches, and once it has fetched a stop
instruction it fetches nothing more until a frame starts.
-/

namespace DualPlaneVideo

namespace Decoder

variable {decoder after : Decoder} {memory : Memory} {sources : PerPlane (List UInt8)}
  {plane : Plane}

/-- What a channel fetches after a line. There is nothing after a line that cannot be shown. -/
def lineFetches (decoder : Decoder) (memory : Memory) (sources : PerPlane (List UInt8))
    (plane : Plane) : List Fetched :=
  match decoder.showLine sources with
  | (_, .error _) => []
  | (shown, .ok _) =>
    match Schedule.registersAt? (Schedule.runDisplay memory shown.settings) shown.registers
      shown.areas plane with
    | none => []
    | some found =>
      Schedule.displayFetches memory shown.settings found plane (shown.areas.get plane)

/-- What a line comes to on one channel: it has no turn, because something has failed before, or
else what its turn comes to. -/
inductive LineTurn (decoder : Decoder) (memory : Memory) (plane : Plane) :
    DecoderStep LineReport → List Fetched → Prop where
  | skipped {after : Decoder} {raised : List UInt8} {failure : Failure}
      (harea : after.areas.get plane = decoder.areas.get plane) :
      LineTurn decoder memory plane ⟨after, raised, .error failure⟩ []
  | taken {step : DecoderStep LineReport} {fetched : List Fetched} {found : RegisterFile}
      {result : ChannelResult}
      (hturn : Schedule.DisplayTurn memory decoder.settings found plane
        (decoder.areas.get plane) result fetched)
      (hfound : found.busRegisters = decoder.registers.busRegisters)
      (harea : step.decoder.areas.get plane = result.area)
      (hreport : ∀ report, step.result = .ok report → ∃ request,
        result.request = .ok request ∧ report.readCursors.get plane = request.readCursor) :
      LineTurn decoder memory plane step fetched

theorem lineTurn (decoder : Decoder) (memory : Memory) (sources : PerPlane (List UInt8))
    (plane : Plane) :
    LineTurn decoder memory plane (decoder.advanceLine memory sources)
      (decoder.lineFetches memory sources plane) := by
  obtain ⟨factors, planeLines, frame, backdrop, hshown⟩ := showLine_fst decoder sources
  unfold advanceLine lineFetches
  rcases hshow : decoder.showLine sources with ⟨shown, failure | consumed⟩
  all_goals
    rw [hshow] at hshown
    cases hshown
    dsimp only
  · exact .skipped rfl
  · have hareas := Schedule.get_areas_runChannels (Schedule.runDisplay memory decoder.settings)
      { decoder.registers with contributionFactor := factors } decoder.areas plane
    cases hfound : Schedule.registersAt? (Schedule.runDisplay memory decoder.settings)
      { decoder.registers with contributionFactor := factors } decoder.areas plane with
    | none =>
      rw [hfound] at hareas
      split
      · exact .skipped hareas
      · rename_i hran
        obtain ⟨found, hsome, -⟩ := Schedule.runChannels_eq_ok hran plane
        rw [hfound] at hsome
        cases hsome
    | some found =>
      rw [hfound] at hareas
      have hturn := Schedule.displayTurn memory decoder.settings found plane
        (decoder.areas.get plane)
      have hbus := Schedule.busRegisters_registersAt? hfound
      split
      · exact .taken hturn hbus hareas fun report hreport ↦ by cases hreport
      · rename_i requests hran
        refine .taken hturn hbus hareas fun report hreport ↦ ?_
        cases hreport
        obtain ⟨own, hown, hrequest⟩ := Schedule.runChannels_eq_ok hran plane
        rw [hfound] at hown
        cases hown
        exact ⟨_, hrequest, PerPlane.get_map _ _ _⟩

/-! ## One line -/

/-- A channel that is halted fetches nothing and stays halted. -/
theorem lineFetches_of_halted (decoder : Decoder) (memory : Memory)
    (sources : PerPlane (List UInt8)) (h : (decoder.areas.get plane).halted = true) :
    decoder.lineFetches memory sources plane = [] ∧
      ((decoder.advanceLine memory sources).decoder.areas.get plane).halted = true := by
  have hline := lineTurn decoder memory sources plane
  generalize decoder.advanceLine memory sources = step at hline ⊢
  generalize decoder.lineFetches memory sources plane = fetched at hline ⊢
  cases hline with
  | skipped harea => exact ⟨rfl, by rw [harea, h]⟩
  | taken hturn hfound harea hreport =>
    obtain ⟨hnothing, hsame⟩ := hturn.of_halted h
    exact ⟨hnothing, by rw [harea, hsame, h]⟩

/-- A stop instruction halts the channel that fetches it. -/
theorem halted_of_hasStop
    (h : HasStop (decoder.lineFetches memory sources plane)) :
    ((decoder.advanceLine memory sources).decoder.areas.get plane).halted = true := by
  have hline := lineTurn decoder memory sources plane
  generalize decoder.advanceLine memory sources = step at hline ⊢
  generalize decoder.lineFetches memory sources plane = fetched at hline h
  cases hline with
  | skipped harea => exact absurd h not_hasStop_nil
  | taken hturn hfound harea hreport =>
    rw [harea]
    exact hturn.halted_of_hasStop h

/-- On a line that does not fail every channel has its turn. -/
theorem exists_displayTurn {report : LineReport}
    (hok : (decoder.advanceLine memory sources).result = .ok report) (plane : Plane) :
    ∃ found result request,
      Schedule.DisplayTurn memory decoder.settings found plane (decoder.areas.get plane) result
        (decoder.lineFetches memory sources plane) ∧
      found.system.displayAreaEnabled plane =
        decoder.registers.system.displayAreaEnabled plane ∧
      result.request = .ok request ∧
      (decoder.advanceLine memory sources).decoder.areas.get plane = result.area ∧
      report.readCursors.get plane = request.readCursor := by
  have hline := lineTurn decoder memory sources plane
  generalize decoder.advanceLine memory sources = step at hline hok ⊢
  generalize decoder.lineFetches memory sources plane = fetched at hline ⊢
  cases hline with
  | skipped harea => cases hok
  | taken hturn hfound harea hreport =>
    obtain ⟨request, hrequest, hcursor⟩ := hreport report hok
    have henabled := congrArg (SystemRegisters.displayAreaEnabled · plane) hfound
    exact ⟨_, _, request, hturn, henabled, hrequest, harea, hcursor⟩

/-- The read cursors that a line reports are those that its programs have loaded last. -/
theorem readCursors_of_advanceLine {report : LineReport}
    (hok : (decoder.advanceLine memory sources).result = .ok report) (plane : Plane) :
    report.readCursors.get plane = lastReadCursor (decoder.lineFetches memory sources plane) := by
  obtain ⟨found, result, request, hturn, -, hrequest, -, hcursor⟩ := exists_displayTurn hok plane
  rw [hcursor, hturn.readCursor_eq hrequest]

/-- An enabled channel takes its instructions from its area. -/
theorem lineFetches_of_enabled {start : Word} {report : LineReport}
    (harea : decoder.areas.get plane = ⟨some start, false⟩)
    (henabled : decoder.registers.system.displayAreaEnabled plane = true)
    (hok : (decoder.advanceLine memory sources).result = .ok report) :
    let budget := decoder.settings.lineBudget.toNat
    let fetched := decoder.lineFetches memory sources plane
    let next := (decoder.advanceLine memory sources).decoder.areas.get plane
    (fetched.head? = if budget = 0 then none else some ⟨start, ProgramRun.fetch memory start⟩) ∧
      next.next = some (Schedule.nextArea start budget fetched) ∧
      (next.halted = true ↔ HasStop fetched) := by
  obtain ⟨found, result, request, hturn, hfound, hrequest, hafter, -⟩ :=
    exists_displayTurn hok plane
  rw [harea] at hturn
  obtain ⟨hfetched, hnext, hstop⟩ := hturn.of_enabled hrequest (hfound.trans henabled)
  intro budget fetched next
  refine ⟨?_, ?_, ?_⟩
  · simp only [fetched]
    rw [hfetched]
    exact ProgramRun.head?_fetches _ _ _ _ _
  · simp only [next]
    rw [hafter]
    exact hnext
  · simp only [next]
    rw [hafter]
    exact hstop

/-- What a channel fetches, and where that leaves its area, depends on nothing but memory, its budget
and its own area. -/
theorem lineFetches_congr {other : Decoder} {others : PerPlane (List UInt8)}
    {report otherReport : LineReport}
    (harea : other.areas.get plane = decoder.areas.get plane)
    (hbudget : other.settings.lineBudget = decoder.settings.lineBudget)
    (henabled : decoder.registers.system.displayAreaEnabled plane = true)
    (hok : (decoder.advanceLine memory sources).result = .ok report)
    (hotherEnabled : other.registers.system.displayAreaEnabled plane = true)
    (hotherOk : (other.advanceLine memory others).result = .ok otherReport) :
    other.lineFetches memory others plane = decoder.lineFetches memory sources plane ∧
      (other.advanceLine memory others).decoder.areas.get plane =
        (decoder.advanceLine memory sources).decoder.areas.get plane := by
  obtain ⟨found, result, request, hturn, hfound, hrequest, hafter, -⟩ :=
    exists_displayTurn hok plane
  obtain ⟨otherFound, otherResult, otherRequest, hotherTurn, hotherFound, hotherRequest,
    hotherAfter, -⟩ := exists_displayTurn hotherOk plane
  rw [harea] at hotherTurn
  rw [hafter, hotherAfter]
  exact hturn.eq_of_enabled hrequest (hfound.trans henabled) hotherTurn hotherRequest
    (hotherFound.trans hotherEnabled) hbudget

/-! ## Lines of a frame -/

/-- What the bus does between two lines. -/
inductive BusAccess where
  | write (write : BusWrite)
  | readSystem (offset : Word)
  | reload (settings : Settings)

def access (decoder : Decoder) : BusAccess → Decoder
  | .write write => decoder.write write
  | .readSystem offset => (decoder.readSystem offset).2
  | .reload settings => decoder.reload settings

/-- A line of a frame: what the bus does before it and what it finds in memory. -/
structure FrameLine where
  accesses : List BusAccess
  memory : Memory
  sources : PerPlane (List UInt8)

/-- The decoder at line `n`, when the lines follow each other without a new frame or a reset in
between. A line may fail. -/
def atLine (decoder : Decoder) (lines : Nat → FrameLine) : Nat → Decoder
  | 0 => (lines 0).accesses.foldl access decoder
  | n + 1 =>
    let passed := (decoder.atLine lines n).advanceLine (lines n).memory (lines n).sources
    (lines (n + 1)).accesses.foldl access passed.decoder

/-- What a channel fetches after line `n`. -/
def fetchesAt (decoder : Decoder) (lines : Nat → FrameLine) (plane : Plane) (n : Nat) :
    List Fetched :=
  (decoder.atLine lines n).lineFetches (lines n).memory (lines n).sources plane

def budgetAt (decoder : Decoder) (lines : Nat → FrameLine) (n : Nat) : Nat :=
  (decoder.atLine lines n).settings.lineBudget.toNat

/-- Where the area of line `n` starts, from the start of the first: at the last area that the channel
has selected on the line before, if any, and otherwise behind the area of that line. -/
def areaStart (decoder : Decoder) (lines : Nat → FrameLine) (plane : Plane) (start : Word) :
    Nat → Word
  | 0 => start
  | n + 1 =>
    Schedule.nextArea (decoder.areaStart lines plane start n) (decoder.budgetAt lines n)
      (decoder.fetchesAt lines plane n)

/-- The channel's display control areas are enabled on line `n`, and the line does not fail. -/
structure RunsAt (decoder : Decoder) (lines : Nat → FrameLine) (plane : Plane) (n : Nat) :
    Prop where
  enabled : (decoder.atLine lines n).registers.system.displayAreaEnabled plane = true
  succeeds : ∃ report,
    ((decoder.atLine lines n).advanceLine (lines n).memory (lines n).sources).result = .ok report

theorem areas_access (decoder : Decoder) (access : BusAccess) :
    (decoder.access access).areas = decoder.areas := by
  cases access with
  | write write =>
    obtain ⟨registers, hwritten⟩ := write_eq decoder write
    rw [Decoder.access, hwritten]
  | readSystem offset =>
    obtain ⟨registers, hread⟩ := readSystem_eq decoder offset
    rw [Decoder.access, hread]
  | reload settings => rfl

/-- The bus has no access to the areas. -/
theorem areas_foldl_access (decoder : Decoder) (accesses : List BusAccess) :
    (accesses.foldl access decoder).areas = decoder.areas := by
  induction accesses generalizing decoder with
  | nil => rfl
  | cons one rest ih =>
    rw [List.foldl_cons, ih, areas_access]

variable {lines others : Nat → FrameLine} {other : Decoder} {n : Nat}

theorem areas_atLine_zero (decoder : Decoder) (lines : Nat → FrameLine) :
    (decoder.atLine lines 0).areas = decoder.areas :=
  areas_foldl_access _ _

theorem areas_atLine_succ (decoder : Decoder) (lines : Nat → FrameLine) (n : Nat) :
    (decoder.atLine lines (n + 1)).areas =
      ((decoder.atLine lines n).advanceLine (lines n).memory (lines n).sources).decoder.areas :=
  areas_foldl_access _ _

/-- As long as nothing has stopped the channel, its area starts where the lines before have put
it. -/
theorem get_areas_atLine {start : Word} (harea : decoder.areas.get plane = ⟨some start, false⟩)
    (hruns : ∀ k < n, decoder.RunsAt lines plane k)
    (hstop : ∀ k < n, ¬ HasStop (decoder.fetchesAt lines plane k)) :
    (decoder.atLine lines n).areas.get plane =
      ⟨some (decoder.areaStart lines plane start n), false⟩ := by
  induction n with
  | zero => rw [areas_atLine_zero, harea, areaStart]
  | succ n ih =>
    have hbefore := ih (fun k hk ↦ hruns k (Nat.lt_succ_of_lt hk))
      (fun k hk ↦ hstop k (Nat.lt_succ_of_lt hk))
    have hline := hruns n (Nat.lt_succ_self n)
    obtain ⟨report, hok⟩ := hline.succeeds
    obtain ⟨-, hnext, hhalted⟩ := lineFetches_of_enabled hbefore hline.enabled hok
    have hgoesOn := mt hhalted.mp (hstop n (Nat.lt_succ_self n))
    rw [areas_atLine_succ, DisplayArea.mk.injEq]
    exact ⟨hnext, Bool.eq_false_iff.mpr hgoesOn⟩

theorem halted_atLine {m : Nat} (h : HasStop (decoder.fetchesAt lines plane m)) (hn : m < n) :
    ((decoder.atLine lines n).areas.get plane).halted = true := by
  -- The lines behind the stop may fail, and the channel may be disabled there.
  induction hn with
  | refl =>
    rw [areas_atLine_succ]
    exact halted_of_hasStop h
  | step _ ih =>
    rw [areas_atLine_succ]
    exact (lineFetches_of_halted _ _ _ ih).2

/-- The lines of two frames give a channel the same memory and the same budget, and on both of them
it is enabled and nothing fails. -/
structure RunsAlike (decoder other : Decoder) (lines others : Nat → FrameLine) (plane : Plane)
    (n : Nat) : Prop where
  memory_eq : (others n).memory = (lines n).memory
  budget_eq : (other.atLine others n).settings.lineBudget =
    (decoder.atLine lines n).settings.lineBudget
  runs : decoder.RunsAt lines plane n
  otherRuns : other.RunsAt others plane n

theorem RunsAlike.congr (h : RunsAlike decoder other lines others plane n)
    (harea : (other.atLine others n).areas.get plane = (decoder.atLine lines n).areas.get plane) :
    other.fetchesAt others plane n = decoder.fetchesAt lines plane n ∧
      (other.atLine others (n + 1)).areas.get plane =
        (decoder.atLine lines (n + 1)).areas.get plane := by
  obtain ⟨report, hok⟩ := h.runs.succeeds
  obtain ⟨otherReport, hotherOk⟩ := h.otherRuns.succeeds
  rw [h.memory_eq] at hotherOk
  rw [areas_atLine_succ, areas_atLine_succ, fetchesAt, fetchesAt, h.memory_eq]
  exact lineFetches_congr harea h.budget_eq h.runs.enabled hok h.otherRuns.enabled hotherOk

/-- Where the areas of a channel lie does not depend on the other channel. -/
theorem get_areas_atLine_congr (harea : other.areas.get plane = decoder.areas.get plane)
    (hruns : ∀ k < n, RunsAlike decoder other lines others plane k) :
    (other.atLine others n).areas.get plane = (decoder.atLine lines n).areas.get plane := by
  induction n with
  | zero => rw [areas_atLine_zero, areas_atLine_zero, harea]
  | succ n ih =>
    have hbefore := ih fun k hk ↦ hruns k (Nat.lt_succ_of_lt hk)
    exact ((hruns n (Nat.lt_succ_self n)).congr hbefore).2

/-- A frame that starts without a failure wakes both channels. -/
theorem halted_enterFrame {cursors : PerPlane (Option Word)}
    (hok : (decoder.enterFrame memory).result = .ok cursors) (plane : Plane) :
    ((decoder.enterFrame memory).decoder.areas.get plane).halted = false := by
  unfold enterFrame at hok ⊢
  dsimp only at hok ⊢
  split at hok
  · cases hok
  · rename_i requests hran
    obtain ⟨found, hfound, -⟩ := Schedule.runChannels_eq_ok hran plane
    dsimp only [afterPrograms]
    rw [Schedule.runInitialAreas, Schedule.get_areas_runChannels, hfound]
    exact Schedule.halted_runInitial _ _ _ _ _

/-- As long as nothing fails and the channel is enabled, its instructions on line `n` start where the
lines before have put its area: at the last area that it has selected on the line before, or else one
budget behind the area of that line, modulo the size of memory. After a stop instruction it fetches
nothing on any later line, whatever else happens there; a frame that starts, or a reset, ends that.
What the channel fetches depends on nothing but memory, its budgets and its own area, so the other
channel may be halted or not. -/
theorem display_areas_follow (decoder : Decoder) (lines : Nat → FrameLine) (plane : Plane) :
    (∀ start n, decoder.areas.get plane = ⟨some start, false⟩ →
      (∀ k ≤ n, decoder.RunsAt lines plane k) →
      (∀ k < n, ¬ HasStop (decoder.fetchesAt lines plane k)) →
      let address := decoder.areaStart lines plane start n
      (decoder.fetchesAt lines plane n).head? =
        if decoder.budgetAt lines n = 0 then none
        else some ⟨address, ProgramRun.fetch (lines n).memory address⟩) ∧
    (∀ m n, HasStop (decoder.fetchesAt lines plane m) → m < n →
      decoder.fetchesAt lines plane n = []) ∧
    (∀ memory cursors, (decoder.enterFrame memory).result = .ok cursors →
      ((decoder.enterFrame memory).decoder.areas.get plane).halted = false) ∧
    (decoder.reset.areas.get plane).halted = false ∧
    ∀ (other : Decoder) (others : Nat → FrameLine) (n : Nat),
      other.areas.get plane = decoder.areas.get plane →
      (∀ k ≤ n, RunsAlike decoder other lines others plane k) →
      other.fetchesAt others plane n = decoder.fetchesAt lines plane n := by
  refine ⟨?_, ?_, ?_, ?_, ?_⟩
  · intro start n harea hruns hstop address
    have hbefore := get_areas_atLine harea (fun k hk ↦ hruns k (Nat.le_of_lt hk)) hstop
    have hline := hruns n (Nat.le_refl n)
    obtain ⟨report, hok⟩ := hline.succeeds
    exact (lineFetches_of_enabled hbefore hline.enabled hok).1
  · intro m n hstop hn
    exact (lineFetches_of_halted _ _ _ (halted_atLine hstop hn)).1
  · intro memory cursors hok
    exact halted_enterFrame hok plane
  · exact congrArg DisplayArea.halted (PerPlane.get_both default plane)
  · intro other others n harea hruns
    have hbefore := get_areas_atLine_congr harea fun k hk ↦ hruns k (Nat.le_of_lt hk)
    exact ((hruns n (Nat.le_refl n)).congr hbefore).1

/-- No operations everywhere. -/
def idleMemory : Memory := fun address ↦ if address.toNat % 4 = 0 then 0x10 else 0

/-- Channel A runs on around the end of memory, then jumps in place, then stops. -/
def stoppingLines : Nat → FrameLine
  | 1 => ⟨[], fun address ↦ if address = 0x3C then 0x40 else if address = 0x3F then 0x3C else 0,
      .both []⟩
  | 2 => ⟨[], fun _ ↦ 0, .both []⟩
  | _ => ⟨[], idleMemory, .both []⟩

/-- The display is off, and the display control area of channel A starts at the last instruction of
memory. -/
def atEndOfMemory : Decoder :=
  let decoder := (initial default).write (.system 0x12 0x0100)
  { decoder with
    areas := ⟨⟨some 0xFFFFC, false⟩, default⟩
    format := { decoder.format with activeLines := 0 } }

/-- The same with a program on channel B, which is stopped one line earlier. -/
def atEndOfMemoryBesideB : Decoder :=
  let decoder := atEndOfMemory.write (.system 0x02 0x0100)
  { decoder with areas := { decoder.areas with b := ⟨some 0x2000, false⟩ } }

theorem display_areas_follow_at_end_of_memory :
    (atEndOfMemory.fetchesAt stoppingLines .a 0).head? = some ⟨0xFFFFC, .noOperation⟩ ∧
      (atEndOfMemory.fetchesAt stoppingLines .a 1).head? = some ⟨0x3C, .jump 0x3C⟩ ∧
      (atEndOfMemory.fetchesAt stoppingLines .a 2).head? = some ⟨0x7C, .stop⟩ ∧
      atEndOfMemory.fetchesAt stoppingLines .a 3 = [] ∧
      ((atEndOfMemory.enterFrame idleMemory).decoder.areas.get .a).halted = false ∧
      HasStop (atEndOfMemoryBesideB.fetchesAt stoppingLines .b 1) ∧
      atEndOfMemoryBesideB.fetchesAt stoppingLines .a 2 =
        atEndOfMemory.fetchesAt stoppingLines .a 2 := by
  have hruns {decoder : Decoder} (k : Nat)
      (henabled : (decoder.atLine stoppingLines k).registers.system.displayAreaEnabled .a = true)
      (hok : ((decoder.atLine stoppingLines k).advanceLine (stoppingLines k).memory
        (stoppingLines k).sources).result = .ok ⟨.both 0, .both none⟩) :
      decoder.RunsAt stoppingLines .a k :=
    ⟨henabled, _, hok⟩
  have halone : ∀ k ≤ 2, atEndOfMemory.RunsAt stoppingLines .a k := by
    intro k hk
    apply hruns
    · revert k
      decide +kernel
    · revert k
      decide +kernel
  have hbeside : ∀ k ≤ 2, atEndOfMemoryBesideB.RunsAt stoppingLines .a k := by
    intro k hk
    apply hruns
    · revert k
      decide +kernel
    · revert k
      decide +kernel
  have hbudget : ∀ k ≤ 2, (atEndOfMemoryBesideB.atLine stoppingLines k).settings.lineBudget =
      (atEndOfMemory.atLine stoppingLines k).settings.lineBudget := by decide +kernel
  have hstop : ∀ k < 2, ¬ HasStop (atEndOfMemory.fetchesAt stoppingLines .a k) := by
    decide +kernel
  have hentered : (atEndOfMemory.enterFrame idleMemory).result = .ok (.both none) := by
    decide +kernel
  obtain ⟨hfollow, hhalted, hwakes, -, hsame⟩ :=
    display_areas_follow atEndOfMemory stoppingLines .a
  have hheads (n : Nat) (hn : n ≤ 2) := hfollow 0xFFFFC n rfl
    (fun k hk ↦ halone k (Nat.le_trans hk hn)) (fun k hk ↦ hstop k (Nat.lt_of_lt_of_le hk hn))
  refine ⟨?_, ?_, ?_, ?_, hwakes idleMemory _ hentered, by decide +kernel, ?_⟩
  · exact (hheads 0 (by decide)).trans (by decide +kernel)
  · exact (hheads 1 (by decide)).trans (by decide +kernel)
  · exact (hheads 2 (by decide)).trans (by decide +kernel)
  · exact hhalted 2 3 (by decide +kernel) (by decide)
  · exact hsame atEndOfMemoryBesideB stoppingLines 2 rfl
      fun k hk ↦ ⟨rfl, hbudget k hk, halone k hk, hbeside k hk⟩

end Decoder

end DualPlaneVideo
