import DualPlaneVideo.Proofs.Decoder.DisplayAreas
import DualPlaneVideo.Proofs.Decoder.SourceBytes
import DualPlaneVideo.Proofs.VideoRam
import DualPlaneVideo.Proofs.VideoUnit.QuietFrame

/-!
# Fetching image data

Each line takes a plane's image data from memory at the plane's read cursor. The next line goes on
behind them, around the end of memory, unless a program has loaded the cursor; so an image whose
lines are all of one length lies in memory line after line.
-/

namespace DualPlaneVideo

namespace VideoUnit

variable {ε : Type}

/-- A tick in the course of a frame: what happens before it and the renderer that it finds. -/
structure FrameTick (ε : Type) where
  accesses : List Access
  render : FinishedFrame → Except ε Unit

/-- The unit that tick `n` finds. -/
def atTick (unit : VideoUnit) (ticks : Nat → FrameTick ε) : Nat → VideoUnit
  | 0 => (ticks 0).accesses.foldl access unit
  | n + 1 =>
    (ticks (n + 1)).accesses.foldl access ((unit.atTick ticks n).tick (ticks n).render).unit

/-- The unit as tick `n` shows its line. On the first line the initial programs have run. -/
def atLine (unit : VideoUnit) (ticks : Nat → FrameTick ε) (n : Nat) : VideoUnit :=
  (unit.atTick ticks n).enterFrame.unit

/-- No bus write touches the plane's cursor between the first line and line `n`. -/
def Untouched (ticks : Nat → FrameTick ε) (plane : Plane) (n : Nat) : Prop :=
  ∀ k < n, ∀ access ∈ (ticks (k + 1)).accesses, ¬ access.Touches plane

section Line

variable (unit : VideoUnit) (ticks : Nat → FrameTick ε) (plane : Plane) (n : Nat)

/-- The format that the first tick has latched. -/
def frameFormat : ScreenFormat := (unit.atLine ticks 0).decoder.format

/-- Where line `n` takes a plane's image data from. -/
def cursorAt : Word := (unit.atLine ticks n).readCursors.get plane

def lineResult : Except Failure LineReport :=
  ((unit.atLine ticks n).decoder.advanceLine (unit.atLine ticks n).ram.memory
    (unit.atLine ticks n).sources).result

/-- What a channel fetches after line `n`. -/
def fetchesAfter : List Fetched :=
  (unit.atLine ticks n).decoder.lineFetches (unit.atLine ticks n).ram.memory
    (unit.atLine ticks n).sources plane

/-- The ticks before tick `n` of a frame succeed, and tick `n` is still one of the frame. -/
structure RunsTo : Prop where
  start : unit.scanline = 0
  lt_totalLines : n < (unit.frameFormat ticks).totalLines
  succeeds : ∀ k < n, ∃ took, ((unit.atTick ticks k).tick (ticks k).render).result = .ok took

/-- The display is enabled on line `n`, the plane's coding takes a fixed length, and no program loads
the plane's cursor. -/
structure IsSteady (length : Nat) : Prop where
  enabled : (unit.atLine ticks n).decoder.registers.system.displayEnabled = true
  fixedLength : PlaneLine.fixedLength? (unit.atLine ticks n).decoder.registers plane
    (unit.frameFormat ticks).baseWidth = some length
  notLoaded : lastReadCursor (unit.fetchesAfter ticks plane n) = none

end Line

variable {unit : VideoUnit} {ticks : Nat → FrameTick ε} {plane : Plane} {n : Nat}

theorem foldl_access_scanline (unit : VideoUnit) (accesses : List Access) :
    (accesses.foldl access unit).scanline = unit.scanline := by
  induction accesses generalizing unit with
  | nil => rfl
  | cons one rest ih => rw [List.foldl_cons, ih, scanline_access]

theorem foldl_access_format (unit : VideoUnit) (accesses : List Access) :
    (accesses.foldl access unit).decoder.format = unit.decoder.format := by
  induction accesses generalizing unit with
  | nil => rfl
  | cons one rest ih => rw [List.foldl_cons, ih, format_access]

theorem foldl_access_cursor {accesses : List Access} (unit : VideoUnit)
    (h : ∀ access ∈ accesses, ¬ access.Touches plane) :
    (accesses.foldl access unit).readCursors.get plane = unit.readCursors.get plane := by
  induction accesses generalizing unit with
  | nil => rfl
  | cons one rest ih =>
    rw [List.foldl_cons, ih _ fun access haccess ↦ h access (List.mem_cons_of_mem one haccess)]
    exact get_readCursors_access (h one List.mem_cons_self)

theorem RunsTo.of_le {m : Nat} (h : RunsTo unit ticks n) (hle : m ≤ n) : RunsTo unit ticks m where
  start := h.start
  lt_totalLines := Nat.lt_of_le_of_lt hle h.lt_totalLines
  succeeds k hk := h.succeeds k (Nat.lt_of_lt_of_le hk hle)

theorem RunsTo.of_succ (h : RunsTo unit ticks (n + 1)) : RunsTo unit ticks n :=
  h.of_le (Nat.le_succ n)

theorem regular_frameFormat (ticks : Nat → FrameTick ε) (h : unit.scanline = 0) :
    (unit.frameFormat ticks).Regular := by
  have hstart : (unit.atTick ticks 0).scanline = 0 := by
    rw [atTick, foldl_access_scanline, h]
  rw [frameFormat, atLine, format_enterFrame hstart]
  exact ScreenFormat.regular_ofRegisters _ _

/-- The unit after a line that succeeds. -/
def passedLine (line : VideoUnit) (n : Nat) : VideoUnit :=
  { line.showLine.unit with scanline := n + 1 }

/-- A tick of the frame that is not its last passes its line. -/
theorem tick_eq_passedLine (h : RunsTo unit ticks (n + 1))
    (hscanline : (unit.atTick ticks n).scanline = n)
    (hformat : (unit.atLine ticks n).decoder.format = unit.frameFormat ticks) :
    (unit.atLine ticks n).showLine.failure? = none ∧ ∃ raised,
      (unit.atTick ticks n).tick (ticks n).render =
        ⟨(unit.atLine ticks n).passedLine n, raised, none, .ok false⟩ := by
  obtain ⟨took, hok⟩ := h.succeeds n (Nat.lt_succ_self n)
  have hlast : (unit.atTick ticks n).scanline + 1 <
      (unit.atLine ticks n).decoder.format.totalLines := by
    rw [hscanline, hformat]
    exact h.lt_totalLines
  obtain ⟨hshown, raised, htick⟩ := tick_of_ok hok hlast
  rw [hscanline] at htick
  exact ⟨hshown, raised, htick⟩

theorem atTick_succ (h : RunsTo unit ticks (n + 1))
    (hscanline : (unit.atTick ticks n).scanline = n)
    (hformat : (unit.atLine ticks n).decoder.format = unit.frameFormat ticks) :
    (unit.atLine ticks n).showLine.failure? = none ∧
      unit.atTick ticks (n + 1) =
        (ticks (n + 1)).accesses.foldl access ((unit.atLine ticks n).passedLine n) := by
  obtain ⟨hshown, raised, htick⟩ := tick_eq_passedLine h hscanline hformat
  rw [atTick, htick]
  exact ⟨hshown, rfl⟩

/-- Line `n` is shown on scanline `n`, in the format of the frame. -/
theorem RunsTo.atLine (h : RunsTo unit ticks n) :
    (unit.atTick ticks n).scanline = n ∧
      (unit.atLine ticks n).decoder.format = unit.frameFormat ticks := by
  induction n with
  | zero => exact ⟨(foldl_access_scanline _ _).trans h.start, rfl⟩
  | succ n ih =>
    obtain ⟨hscanline, hformat⟩ := ih h.of_succ
    obtain ⟨-, htick⟩ := atTick_succ h hscanline hformat
    have hnext : (unit.atTick ticks (n + 1)).scanline = n + 1 := by
      rw [htick, foldl_access_scanline, passedLine]
    refine ⟨hnext, ?_⟩
    rw [VideoUnit.atLine, enterFrame_of_ne_zero (by rw [hnext]; exact Nat.succ_ne_zero n), htick,
      foldl_access_format]
    calc
      ((unit.atLine ticks n).passedLine n).decoder.format =
          (unit.atLine ticks n).decoder.format := format_showLine _
      _ = unit.frameFormat ticks := hformat

theorem RunsTo.scanline_atLine (h : RunsTo unit ticks n) : (unit.atLine ticks n).scanline = n := by
  rw [VideoUnit.atLine, scanline_enterFrame, h.atLine.1]

/-- The next line finds the plane's cursor where this line leaves it. -/
theorem cursorAt_succ (h : RunsTo unit ticks (n + 1)) (huntouched : Untouched ticks plane (n + 1)) :
    (unit.atLine ticks n).showLine.failure? = none ∧
      unit.cursorAt ticks plane (n + 1) =
        (unit.atLine ticks n).showLine.unit.readCursors.get plane := by
  obtain ⟨hscanline, hformat⟩ := h.of_succ.atLine
  obtain ⟨hshown, htick⟩ := atTick_succ h hscanline hformat
  refine ⟨hshown, ?_⟩
  rw [cursorAt, atLine, enterFrame_of_ne_zero (by rw [h.atLine.1]; exact Nat.succ_ne_zero n), htick,
    foldl_access_cursor _ (huntouched n (Nat.lt_succ_self n)), passedLine]

theorem get_sources (unit : VideoUnit) (plane : Plane) :
    unit.sources.get plane = unit.ram.bytesFrom (unit.readCursors.get plane).toNat
      (windowLength unit.decoder.format) := by
  rw [sources, PerPlane.get_map, VideoRam.toList_readBlock]

/-- What a line has consumed lies in memory from the cursor on. -/
theorem take_consumed {unit : VideoUnit} {report : LineReport}
    (hok : (unit.decoder.advanceLine unit.ram.memory unit.sources).result = .ok report) :
    (unit.sources.get plane).take (report.consumed.get plane) =
      unit.ram.bytesFrom (unit.readCursors.get plane).toNat (report.consumed.get plane) := by
  have hlength := Decoder.consumed_le_length hok plane
  rw [get_sources] at hlength ⊢
  rw [VideoRam.bytesFrom, List.length_map, List.length_range] at hlength
  exact VideoRam.take_bytesFrom _ _ hlength

/-- An active line leaves the cursor behind what it has consumed, or where its program has loaded
it. -/
theorem cursorAt_active (h : RunsTo unit ticks (n + 1)) (huntouched : Untouched ticks plane (n + 1))
    (hactive : n < (unit.frameFormat ticks).activeLines) :
    ∃ report, unit.lineResult ticks n = .ok report ∧
      unit.cursorAt ticks plane (n + 1) =
        (lastReadCursor (unit.fetchesAfter ticks plane n)).getD
          (addressAt ((unit.cursorAt ticks plane n).toNat + report.consumed.get plane)) := by
  obtain ⟨hshown, hcursor⟩ := cursorAt_succ h huntouched
  have hline : (unit.atLine ticks n).scanline <
      (unit.atLine ticks n).decoder.format.activeLines := by
    rwa [h.of_succ.scanline_atLine, h.of_succ.atLine.2]
  obtain ⟨report, hok, hafter⟩ := showLine_of_active hline hshown
  refine ⟨report, hok, ?_⟩
  rw [hcursor, hafter]
  dsimp only
  rw [reloadCursors, PerPlane.get_ofFn, Decoder.readCursors_of_advanceLine hok, advanceCursors,
    PerPlane.get_ofFn, wrapAddress_add]
  rfl

/-- A blanking line leaves the cursor where it is. -/
theorem cursorAt_blanking (h : RunsTo unit ticks (n + 1))
    (huntouched : Untouched ticks plane (n + 1))
    (hblanking : (unit.frameFormat ticks).activeLines ≤ n) :
    unit.cursorAt ticks plane (n + 1) = unit.cursorAt ticks plane n := by
  obtain ⟨-, hcursor⟩ := cursorAt_succ h huntouched
  have hline : ¬ (unit.atLine ticks n).scanline <
      (unit.atLine ticks n).decoder.format.activeLines := by
    rw [h.of_succ.scanline_atLine, h.of_succ.atLine.2]
    omega
  rw [hcursor, showLine_of_blanking hline, cursorAt]

/-! ## Lines of one length -/

variable {length : Nat}

/-- A steady line consumes its length and leaves the cursor behind it. -/
theorem IsSteady.line (hsteady : unit.IsSteady ticks plane n length)
    (h : RunsTo unit ticks (n + 1)) (huntouched : Untouched ticks plane (n + 1))
    (hactive : n < (unit.frameFormat ticks).activeLines) :
    ∃ report, unit.lineResult ticks n = .ok report ∧ report.consumed.get plane = length ∧
      unit.cursorAt ticks plane (n + 1) =
        addressAt ((unit.cursorAt ticks plane n).toNat + length) := by
  obtain ⟨report, hok, hcursor⟩ := cursorAt_active h huntouched hactive
  have hformat := h.of_succ.atLine.2
  have heven := (regular_frameFormat ticks h.start).baseWidth_even
  have hfixed := hsteady.fixedLength
  rw [← hformat] at heven hfixed
  have hconsumed : report.consumed.get plane = length :=
    Decoder.consumed_of_fixedLength heven hsteady.enabled hfixed hok
  rw [hsteady.notLoaded, hconsumed] at hcursor
  exact ⟨report, hok, hconsumed, hcursor⟩

/-- While the lines are steady, the cursor of line `n` is `n` lines behind that of the first. -/
theorem addressAt_cursorAt (h : RunsTo unit ticks n) (huntouched : Untouched ticks plane n)
    (hactive : n ≤ (unit.frameFormat ticks).activeLines)
    (hsteady : ∀ k < n, unit.IsSteady ticks plane k length) :
    addressAt (unit.cursorAt ticks plane n).toNat =
      addressAt ((unit.cursorAt ticks plane 0).toNat + n * length) := by
  -- The first cursor may lie outside memory, so the induction is on addresses and not on cursors.
  induction n with
  | zero => rw [Nat.zero_mul, Nat.add_zero]
  | succ n ih =>
    have hbefore := ih h.of_succ (fun k hk ↦ huntouched k (Nat.lt_succ_of_lt hk))
      (Nat.le_of_succ_le hactive) (fun k hk ↦ hsteady k (Nat.lt_succ_of_lt hk))
    obtain ⟨report, -, -, hcursor⟩ := (hsteady n (Nat.lt_succ_self n)).line h huntouched hactive
    calc
      addressAt (unit.cursorAt ticks plane (n + 1)).toNat =
          addressAt ((unit.cursorAt ticks plane n).toNat + length) := by
        rw [hcursor]
        exact addressAt_add _ 0
      _ = addressAt ((addressAt (unit.cursorAt ticks plane n).toNat).toNat + length) :=
        (addressAt_add _ _).symm
      _ = addressAt ((unit.cursorAt ticks plane 0).toNat + n * length + length) := by
        rw [hbefore, addressAt_add]
      _ = addressAt ((unit.cursorAt ticks plane 0).toNat + (n + 1) * length) := by
        rw [Nat.succ_mul, Nat.add_assoc]

/-- Behind steady lines the cursor stays at their end. -/
theorem cursorAt_behind (h : RunsTo unit ticks n) (huntouched : Untouched ticks plane n)
    (hactive : (unit.frameFormat ticks).activeLines ≤ n)
    (hsteady : ∀ k < (unit.frameFormat ticks).activeLines, unit.IsSteady ticks plane k length) :
    unit.cursorAt ticks plane n =
      addressAt ((unit.cursorAt ticks plane 0).toNat +
        (unit.frameFormat ticks).activeLines * length) := by
  induction hactive with
  | refl =>
    have hpositive := (regular_frameFormat ticks h.start).activeLines_pos
    obtain ⟨last, hlast⟩ := Nat.exists_eq_succ_of_ne_zero (Nat.ne_of_gt hpositive)
    have hposition := addressAt_cursorAt h huntouched (Nat.le_refl _) hsteady
    rw [hlast] at h huntouched hsteady hposition ⊢
    obtain ⟨report, -, -, hcursor⟩ := (hsteady last (Nat.lt_succ_self last)).line h huntouched
      (by rw [hlast]; exact Nat.lt_succ_self last)
    rw [← hposition, hcursor]
    exact (addressAt_add _ 0).symm
  | step hle ih =>
    rw [cursorAt_blanking h huntouched hle]
    exact ih h.of_succ fun k hk ↦ huntouched k (Nat.lt_succ_of_lt hk)

/-! ## Frames without programs -/

/-- Nothing happens between the ticks. -/
def idleTicks (render : FinishedFrame → Except ε Unit) : Nat → FrameTick ε :=
  fun _ ↦ ⟨[], render⟩

theorem frameFormat_idleTicks (render : FinishedFrame → Except ε Unit)
    (hstart : unit.scanline = 0) :
    unit.frameFormat (idleTicks render) =
      ScreenFormat.ofRegisters unit.decoder.registers.system unit.decoder.registers.parameters :=
  format_enterFrame hstart

variable {render : FinishedFrame → Except ε Unit}

theorem cursorAt_zero_of_quiet (hquiet : unit.decoder.registers.Quiet) :
    unit.cursorAt (idleTicks render) plane 0 = unit.readCursors.get plane :=
  readCursors_of_quiet hquiet plane

/-- A frame without programs runs to its last line. -/
theorem runsTo_of_quiet (reachable : unit.Reachable) (hstart : unit.scanline = 0)
    (hquiet : unit.decoder.registers.Quiet)
    (hn : n < (unit.frameFormat (idleTicks render)).totalLines) :
    RunsTo unit (idleTicks render) n ∧ (unit.atTick (idleTicks render) n).Reachable ∧
      ∃ factors, (unit.atTick (idleTicks render) n).decoder.registers =
        { unit.decoder.registers with contributionFactor := factors } := by
  induction n with
  | zero =>
    refine ⟨⟨hstart, hn, ?_⟩, reachable, unit.decoder.registers.contributionFactor, rfl⟩
    intro k hk
    cases hk
  | succ n ih =>
    obtain ⟨hruns, hreachable, factors, hregisters⟩ := ih (Nat.lt_of_succ_lt hn)
    have hstill : (unit.atTick (idleTicks render) n).decoder.registers.Quiet := by
      rw [hregisters]
      exact hquiet.withFactors factors
    have hlast : (unit.atTick (idleTicks render) n).scanline + 1 <
        (unit.atLine (idleTicks render) n).decoder.format.totalLines := by
      rw [hruns.atLine.1, hruns.atLine.2]
      exact hn
    obtain ⟨hok, after, hafter⟩ := tick_of_quiet hreachable hstill hlast render
    refine ⟨⟨hstart, hn, ?_⟩, hreachable.tick render, after, ?_⟩
    · intro k hk
      rcases Nat.lt_succ_iff_lt_or_eq.mp hk with hbefore | rfl
      · exact hruns.succeeds k hbefore
      · exact ⟨false, hok⟩
    · calc
        (unit.atTick (idleTicks render) (n + 1)).decoder.registers =
            { (unit.atTick (idleTicks render) n).decoder.registers with
              contributionFactor := after } := hafter
        _ = { unit.decoder.registers with contributionFactor := after } := by rw [hregisters]

/-- Without programs a coding of fixed length is steady. -/
theorem isSteady_of_quiet (reachable : unit.Reachable) (hstart : unit.scanline = 0)
    (hquiet : unit.decoder.registers.Quiet)
    (hn : n < (unit.frameFormat (idleTicks render)).totalLines)
    (henabled : unit.decoder.registers.system.displayEnabled = true)
    (hlength : PlaneLine.fixedLength? unit.decoder.registers plane
      (unit.frameFormat (idleTicks render)).baseWidth = some length) :
    unit.IsSteady (idleTicks render) plane n length := by
  obtain ⟨hruns, hreachable, factors, hregisters⟩ := runsTo_of_quiet reachable hstart hquiet hn
  have hstill : (unit.atTick (idleTicks render) n).decoder.registers.Quiet := by
    rw [hregisters]
    exact hquiet.withFactors factors
  obtain ⟨-, hentered⟩ := enterFrame_of_quiet hstill
  have hfit := (reachable_enterFrame hreachable.decoder).fitsFormat
  have hline := hentered.trans hregisters
  rw [← hentered] at hstill
  obtain ⟨shown, consumed, -, hadvance⟩ := advanceLine_of_quiet hfit hstill
  constructor
  · rw [atLine, hline]
    exact henabled
  · rw [atLine, hline]
    exact hlength
  · rw [fetchesAfter, atLine,
      ← Decoder.readCursors_of_advanceLine (congrArg DecoderStep.result hadvance) plane]
    exact PerPlane.get_both none plane

/-- Line after line, a plane's image data are fetched without a gap, around the end of memory: on
every active line the bytes that the plane consumes are those from its cursor on, and the next line
finds the cursor behind them, or at the last address that the channel's display program has loaded;
a blanking line leaves it alone. So while the plane's coding takes `length` bytes for every line and
no program loads its cursor, line `k` has the bytes from `k * length` behind the first cursor on, and
the cursor stays at the end of the last active line. -/
theorem lines_fetch_contiguously (unit : VideoUnit) (ticks : Nat → FrameTick ε) (plane : Plane) :
    (∀ n, RunsTo unit ticks (n + 1) → Untouched ticks plane (n + 1) →
      let line := unit.atLine ticks n
      let cursor := unit.cursorAt ticks plane n
      (n < (unit.frameFormat ticks).activeLines →
        ∃ report, unit.lineResult ticks n = .ok report ∧
          (line.sources.get plane).take (report.consumed.get plane) =
            line.ram.bytesFrom cursor.toNat (report.consumed.get plane) ∧
          unit.cursorAt ticks plane (n + 1) =
            (lastReadCursor (unit.fetchesAfter ticks plane n)).getD
              (addressAt (cursor.toNat + report.consumed.get plane))) ∧
      ((unit.frameFormat ticks).activeLines ≤ n →
        unit.cursorAt ticks plane (n + 1) = cursor)) ∧
    ∀ n length, RunsTo unit ticks n → Untouched ticks plane n →
      let start := (unit.cursorAt ticks plane 0).toNat
      (∀ k < n, k < (unit.frameFormat ticks).activeLines → unit.IsSteady ticks plane k length) →
      (∀ k < n, k < (unit.frameFormat ticks).activeLines →
        let line := unit.atLine ticks k
        ∃ report, unit.lineResult ticks k = .ok report ∧ report.consumed.get plane = length ∧
          (line.sources.get plane).take length =
            line.ram.bytesFrom (start + k * length) length) ∧
      ((unit.frameFormat ticks).activeLines ≤ n →
        unit.cursorAt ticks plane n =
          addressAt (start + (unit.frameFormat ticks).activeLines * length)) := by
  constructor
  · intro n h huntouched line cursor
    constructor
    · intro hactive
      obtain ⟨report, hok, hcursor⟩ := cursorAt_active h huntouched hactive
      exact ⟨report, hok, take_consumed hok, hcursor⟩
    · intro hblanking
      exact cursorAt_blanking h huntouched hblanking
  · intro n length h huntouched start hsteady
    constructor
    · intro k hk hactive line
      have hruns : RunsTo unit ticks (k + 1) := h.of_le hk
      have hkept : Untouched ticks plane (k + 1) :=
        fun other hother ↦ huntouched other (Nat.lt_of_lt_of_le hother hk)
      obtain ⟨report, hok, hconsumed, -⟩ := (hsteady k hk hactive).line hruns hkept hactive
      have hposition := addressAt_cursorAt hruns.of_succ
        (fun other hother ↦ hkept other (Nat.lt_succ_of_lt hother)) (Nat.le_of_lt hactive)
        (fun other hother ↦ hsteady other (Nat.lt_trans hother hk) (Nat.lt_trans hother hactive))
      refine ⟨report, hok, hconsumed, ?_⟩
      calc
        (line.sources.get plane).take length =
            line.ram.bytesFrom (unit.cursorAt ticks plane k).toNat length := by
          rw [← hconsumed]
          exact take_consumed hok
        _ = line.ram.bytesFrom (start + k * length) length := by
          rw [← VideoRam.bytesFrom_addressAt, hposition, VideoRam.bytesFrom_addressAt]
    · intro hactive
      exact cursorAt_behind h huntouched hactive
        fun k hk ↦ hsteady k (Nat.lt_of_lt_of_le hk hactive) hk

/-- CLUT7 on plane A, from an address shortly before the end of memory. -/
def imageAtEndOfMemory : VideoUnit :=
  [.writeRegister 0x12 0x800F, .writeRegister 0x14 0xFF00,
    .writeDecoder (.register 0xC0 3)].foldl access (initial default)

theorem reachable_imageAtEndOfMemory : imageAtEndOfMemory.Reachable :=
  (Reachable.initial default).foldl_access _

theorem quiet_imageAtEndOfMemory : imageAtEndOfMemory.decoder.registers.Quiet where
  initialArea := by decide +kernel
  displayArea := by decide +kernel
  kind := by decide +kernel

theorem frameFormat_imageAtEndOfMemory (render : FinishedFrame → Except ε Unit) :
    imageAtEndOfMemory.frameFormat (idleTicks render) = ⟨360, 280, 312, false, false⟩ :=
  (frameFormat_idleTicks render rfl).trans (by decide +kernel)

theorem lines_fetch_contiguously_at_end_of_memory :
    let ticks := idleTicks fun _ ↦ (.ok () : Except Unit Unit)
    let second := imageAtEndOfMemory.atLine ticks 1
    (second.sources.get .a).take 360 = second.ram.bytesFrom (0xFFF00 + 360) 360 ∧
      imageAtEndOfMemory.cursorAt ticks .a 1 = 0x68 ∧
      imageAtEndOfMemory.cursorAt ticks .a 290 = 0x188C0 := by
  intro ticks second
  have reachable : imageAtEndOfMemory.Reachable := (Reachable.initial default).foldl_access _
  have hquiet : imageAtEndOfMemory.decoder.registers.Quiet :=
    ⟨by decide +kernel, by decide +kernel, by decide +kernel⟩
  have hformat : imageAtEndOfMemory.frameFormat ticks = ⟨360, 280, 312, false, false⟩ :=
    (frameFormat_idleTicks _ rfl).trans (by decide +kernel)
  have hfirst : imageAtEndOfMemory.cursorAt ticks .a 0 = 0xFFF00 :=
    (cursorAt_zero_of_quiet hquiet).trans (by decide +kernel)
  have hruns (n : Nat) (hn : n < 312) : RunsTo imageAtEndOfMemory ticks n :=
    (runsTo_of_quiet reachable rfl hquiet (by rwa [hformat])).1
  have huntouched (n : Nat) : Untouched ticks .a n := by
    intro k _ access haccess
    cases haccess
  have hsteady (n : Nat) (hn : n < 312) : imageAtEndOfMemory.IsSteady ticks .a n 360 :=
    isSteady_of_quiet reachable rfl hquiet (by rwa [hformat]) (by decide +kernel)
      (by rw [hformat]; decide +kernel)
  obtain ⟨hnext, hlines⟩ := lines_fetch_contiguously imageAtEndOfMemory ticks .a
  obtain ⟨hbytes, hbehind⟩ := hlines 290 360 (hruns 290 (by decide)) (huntouched 290)
    fun k hk _ ↦ hsteady k (Nat.lt_trans hk (by decide))
  obtain ⟨hactive, -⟩ := hnext 0 (hruns 1 (by decide)) (huntouched 1)
  rw [hformat] at hactive hbytes hbehind
  rw [hfirst] at hactive hbytes hbehind
  refine ⟨?_, ?_, ?_⟩
  · obtain ⟨report, -, -, htake⟩ := hbytes 1 (by decide) (by decide)
    exact htake
  · obtain ⟨report, hok, -, hcursor⟩ := hactive (by decide)
    obtain ⟨same, hsame, hconsumed, -⟩ := hbytes 0 (by decide) (by decide)
    rw [hok] at hsame
    cases hsame
    rw [hcursor, (hsteady 0 (by decide)).notLoaded, hconsumed]
    decide
  · exact (hbehind (by decide)).trans (by decide)

end VideoUnit

end DualPlaneVideo
