import DualPlaneVideo.Proofs.VideoUnit.FreshFrame

/-!
# The cadence of frames

The first tick of a frame latches how many lines the frame has and how many of them are active, and
nothing that happens later in the frame changes these numbers. As long as no tick fails, every line
is one tick, and the last tick comes back to the first line however the frame ends.
-/

namespace DualPlaneVideo

namespace VideoUnit

variable {ε : Type} {unit : VideoUnit} {render : FinishedFrame → Except ε Unit}
  {ticks : Nat → FrameTick ε} {n last : Nat}

def tickAt (unit : VideoUnit) (ticks : Nat → FrameTick ε) (n : Nat) : Tick ε :=
  (unit.atTick ticks n).tick (ticks n).render

/-- The ways in which the last line of a frame ends. Each of them comes back to the first line. -/
inductive Ending (unit : VideoUnit) (render : FinishedFrame → Except ε Unit) : Tick ε → Prop where
  | rendered {decoder : Decoder} {finished : FinishedFrame}
      (hfinish : unit.decoder.finishFrame = .ok decoder)
      (hframe : finished.frame = decoder.frame) (hrender : render finished = .ok ()) :
      Ending unit render ⟨{ unit with decoder, scanline := 0 }, [], some finished, .ok true⟩
  | notRendered {decoder : Decoder} {finished : FinishedFrame} {error : ε}
      (hfinish : unit.decoder.finishFrame = .ok decoder)
      (hframe : finished.frame = decoder.frame) (hrender : render finished = .error error) :
      Ending unit render
        ⟨{ unit with decoder, scanline := 0 }, [], some finished, .error (.renderer error)⟩
  | notFinished {failure : Failure} (hfinish : unit.decoder.finishFrame = .error failure) :
      Ending unit render ⟨{ unit with scanline := 0 }, [], none, .error (.decoder failure)⟩

theorem ending_leaveLine (hlast : unit.decoder.format.totalLines ≤ unit.scanline + 1)
    (render : FinishedFrame → Except ε Unit) : Ending unit render (unit.leaveLine [] render) := by
  unfold leaveLine
  dsimp only
  rw [if_neg (Nat.not_lt_of_le hlast)]
  split
  · rename_i hfinish
    exact .notFinished hfinish
  · rename_i decoder hfinish
    split
    · rename_i hrender
      exact .notRendered hfinish rfl hrender
    · rename_i hrender
      exact .rendered hfinish rfl hrender

theorem Ending.scanline_eq {tick : Tick ε} (h : Ending unit render tick) :
    tick.unit.scanline = 0 := by
  cases h with
  | rendered hfinish hframe hrender => rfl
  | notRendered hfinish hframe hrender => rfl
  | notFinished hfinish => rfl

/-! ## The lines of a frame -/

theorem RunsTo.tickAt_eq (h : RunsTo unit ticks (n + 1)) :
    (unit.atLine ticks n).showLine.failure? = none ∧ ∃ raised,
      unit.tickAt ticks n = ⟨(unit.atLine ticks n).passedLine n, raised, none, .ok false⟩ :=
  tick_eq_passedLine h h.of_succ.atLine.1 h.of_succ.atLine.2

/-- Every line of a frame is in the midst of it, the first one included. -/
theorem RunsTo.midFrame_atLine (h : RunsTo unit ticks n) : (unit.atLine ticks n).MidFrame := by
  apply midFrame_enterFrame
  cases n with
  | zero => exact fun hne ↦ absurd h.atLine.1 hne
  | succ n => exact fun _ ↦ h.inFrame.midFrame

theorem RunsTo.line_atLine (h : RunsTo unit ticks n) :
    (unit.atLine ticks n).decoder.line = min n (unit.frameFormat ticks).activeLines := by
  rw [h.midFrame_atLine.shown.line_eq, h.scanline_atLine, h.atLine.2]

/-- An active line is advanced by its tick. -/
theorem RunsTo.advances (h : RunsTo unit ticks (n + 1))
    (hactive : n < (unit.frameFormat ticks).activeLines) :
    ∃ report, unit.lineResult ticks n = .ok report ∧
      (unit.tickAt ticks n).unit.decoder = ((unit.atLine ticks n).decoder.advanceLine
        (unit.atLine ticks n).ram.memory (unit.atLine ticks n).sources).decoder := by
  obtain ⟨hshown, raised, htick⟩ := h.tickAt_eq
  have hline : (unit.atLine ticks n).scanline <
      (unit.atLine ticks n).decoder.format.activeLines := by
    rwa [h.of_succ.scanline_atLine, h.of_succ.atLine.2]
  obtain ⟨report, hok, hafter⟩ := showLine_of_active hline hshown
  refine ⟨report, hok, ?_⟩
  rw [htick, passedLine, hafter]

/-- On a blanking line neither a frame is entered nor a line is shown. -/
theorem RunsTo.phases_of_blanking (h : RunsTo unit ticks n)
    (hblanking : (unit.frameFormat ticks).activeLines ≤ n) :
    (unit.atTick ticks n).enterFrame = ⟨unit.atTick ticks n, [], none⟩ ∧
      (unit.atTick ticks n).showLine = ⟨unit.atTick ticks n, [], none⟩ := by
  have hpositive := (regular_frameFormat ticks h.start).activeLines_pos
  obtain ⟨hscanline, hformat⟩ := h.atLine
  have hentered : (unit.atTick ticks n).enterFrame = ⟨unit.atTick ticks n, [], none⟩ :=
    enterFrame_of_ne_zero (by omega)
  refine ⟨hentered, showLine_of_blanking ?_⟩
  rw [VideoUnit.atLine, hentered] at hformat
  rw [hscanline, hformat]
  omega

theorem RunsTo.tickAt_of_blanking (h : RunsTo unit ticks n)
    (hblanking : (unit.frameFormat ticks).activeLines ≤ n) :
    unit.tickAt ticks n = (unit.atTick ticks n).leaveLine [] (ticks n).render := by
  obtain ⟨hentered, hshown⟩ := h.phases_of_blanking hblanking
  simp only [tickAt, tick, hentered, hshown, List.append_nil]

theorem RunsTo.ending (h : RunsTo unit ticks last)
    (hlast : last + 1 = (unit.frameFormat ticks).totalLines) :
    Ending (unit.atTick ticks last) (ticks last).render (unit.tickAt ticks last) := by
  have hblanking : (unit.frameFormat ticks).activeLines ≤ last := by
    have hlt := (regular_frameFormat ticks h.start).activeLines_lt
    omega
  obtain ⟨hscanline, hformat⟩ := h.atLine
  rw [VideoUnit.atLine, (h.phases_of_blanking hblanking).1] at hformat
  rw [h.tickAt_of_blanking hblanking]
  apply ending_leaveLine
  dsimp only at hformat
  rw [hscanline, hformat]
  exact Nat.le_of_eq hlast.symm

/-- The first of the ticks starts a frame, in the format that it finds in the registers. -/
structure StartsFrame (unit : VideoUnit) (ticks : Nat → FrameTick ε) : Prop where
  entered : (unit.atLine ticks 0).decoder =
    ((unit.atTick ticks 0).decoder.enterFrame (unit.atTick ticks 0).ram.memory).decoder
  latched : unit.frameFormat ticks =
    ScreenFormat.ofRegisters (unit.atTick ticks 0).decoder.registers.system
      (unit.atTick ticks 0).decoder.registers.parameters

theorem startsFrame (ticks : Nat → FrameTick ε) (h : unit.scanline = 0) :
    unit.StartsFrame ticks := by
  have hfirst : (unit.atTick ticks 0).scanline = 0 := (foldl_access_scanline _ _).trans h
  refine ⟨?_, format_enterFrame hfirst⟩
  rw [VideoUnit.atLine, VideoUnit.enterFrame, if_pos hfirst]
  dsimp only
  split <;> rfl

/-- The ticks up to `last` make up a frame. Only the last of them may fail. -/
structure Cadence (unit : VideoUnit) (ticks : Nat → FrameTick ε) (last : Nat) : Prop where
  starts : unit.StartsFrame ticks
  pending : ∀ k < last,
    (unit.tickAt ticks k).result = .ok false ∧ (unit.tickAt ticks k).presented = none
  format_kept : ∀ k ≤ last, (unit.atLine ticks k).decoder.format = unit.frameFormat ticks ∧
    (unit.tickAt ticks k).unit.decoder.format = unit.frameFormat ticks
  scanline_eq : ∀ k ≤ last, (unit.atTick ticks k).scanline = k
  line_eq : ∀ k ≤ last,
    (unit.atLine ticks k).decoder.line = min k (unit.frameFormat ticks).activeLines
  advances : ∀ k < (unit.frameFormat ticks).activeLines,
    ∃ report, unit.lineResult ticks k = .ok report ∧
      (unit.tickAt ticks k).unit.decoder = ((unit.atLine ticks k).decoder.advanceLine
        (unit.atLine ticks k).ram.memory (unit.atLine ticks k).sources).decoder
  rests : ∀ k < last, (unit.frameFormat ticks).activeLines ≤ k →
    (unit.tickAt ticks k).unit.decoder = (unit.atTick ticks k).decoder
  ending : Ending (unit.atTick ticks last) (ticks last).render (unit.tickAt ticks last)
  restarts : (unit.tickAt ticks last).unit.scanline = 0
  startsNext : ∀ next : Nat → FrameTick ε, (unit.tickAt ticks last).unit.StartsFrame next

theorem RunsTo.cadence (h : RunsTo unit ticks last)
    (hlast : last + 1 = (unit.frameFormat ticks).totalLines) : Cadence unit ticks last where
  starts := startsFrame ticks h.start
  pending k hk := by
    obtain ⟨-, raised, htick⟩ := (h.of_le hk).tickAt_eq
    rw [htick]
    exact ⟨rfl, rfl⟩
  format_kept k hk := by
    have hformat := (h.of_le hk).atLine.2
    exact ⟨hformat, (format_tick _ _).trans hformat⟩
  scanline_eq k hk := (h.of_le hk).atLine.1
  line_eq k hk := (h.of_le hk).line_atLine
  advances k hactive := by
    have hlt := (regular_frameFormat ticks h.start).activeLines_lt
    exact (h.of_le (by omega)).advances hactive
  rests k hk hblanking := by
    obtain ⟨-, raised, htick⟩ := (h.of_le hk).tickAt_eq
    obtain ⟨hentered, hshown⟩ := (h.of_le (Nat.le_of_lt hk)).phases_of_blanking hblanking
    rw [htick, passedLine, VideoUnit.atLine, hentered, hshown]
  ending := h.ending hlast
  restarts := (h.ending hlast).scanline_eq
  startsNext next := startsFrame next (h.ending hlast).scanline_eq

/-! ## The renderer -/

/-- What the renderer does with a frame makes no difference to the unit. -/
theorem unit_tick_congr {ε' : Type} (unit : VideoUnit) (render : FinishedFrame → Except ε Unit)
    (other : FinishedFrame → Except ε' Unit) :
    (unit.tick render).unit = (unit.tick other).unit := by
  have hleave (line : VideoUnit) (raised : List UInt8) :
      (line.leaveLine raised render).unit = (line.leaveLine raised other).unit := by
    unfold leaveLine
    dsimp only
    split
    · rfl
    · split <;> rfl
  unfold tick
  dsimp only
  split
  · rfl
  · split
    · rfl
    · exact hleave _ _

/-- A frame whose ticks before the last succeed takes one tick for every line of the format that it
has latched: none of them presents a frame before the last, the first ones advance a line each until
the active lines have been shown, and whichever way the last one ends, the next tick starts a frame
in the format of the registers as they are then. Accesses of the bus and the user between the ticks
change nothing of this, nor does what the renderer makes of a frame change the unit. -/
theorem frames_keep_cadence :
    (∀ (ε : Type) (unit : VideoUnit) (ticks : Nat → FrameTick ε) (last : Nat),
      RunsTo unit ticks last → last + 1 = (unit.frameFormat ticks).totalLines →
        Cadence unit ticks last) ∧
    ∀ (ε ε' : Type) (unit : VideoUnit) (render : FinishedFrame → Except ε Unit)
      (other : FinishedFrame → Except ε' Unit),
      (unit.tick render).unit = (unit.tick other).unit :=
  ⟨fun _ _ _ _ h hlast ↦ h.cadence hlast, fun _ _ unit render other ↦
    unit_tick_congr unit render other⟩

/-! ## Accesses before the last line -/

theorem atTick_of_idle (h : ∀ k < n, ticks k = idleTicks render k) :
    unit.atTick ticks n =
      (ticks n).accesses.foldl access (unit.atTick (idleTicks render) n) := by
  induction n with
  | zero => rfl
  | succ n ih =>
    have hbefore := ih fun k hk ↦ h k (Nat.lt_succ_of_lt hk)
    rw [h n (Nat.lt_succ_self n)] at hbefore
    have hsame : unit.atTick ticks n = unit.atTick (idleTicks render) n := hbefore
    rw [VideoUnit.atTick, VideoUnit.atTick, hsame, h n (Nat.lt_succ_self n)]
    rfl

theorem RunsTo.of_idle (h : RunsTo unit (idleTicks render) n) (hn : 0 < n)
    (hidle : ∀ k < n, ticks k = idleTicks render k) : RunsTo unit ticks n where
  start := h.start
  lt_totalLines := by
    have hfirst : unit.frameFormat ticks = unit.frameFormat (idleTicks render) := by
      rw [frameFormat, frameFormat, VideoUnit.atLine, VideoUnit.atLine, VideoUnit.atTick,
        VideoUnit.atTick, hidle 0 hn]
    rw [hfirst]
    exact h.lt_totalLines
  succeeds k hk := by
    have hbefore : unit.atTick ticks k = unit.atTick (idleTicks render) k := by
      rw [atTick_of_idle fun j hj ↦ hidle j (Nat.lt_trans hj hk), hidle k hk]
      rfl
    rw [hbefore, hidle k hk]
    exact h.succeeds k hk

/-- The frame is finished without a change of registers. -/
theorem Ending.registers_eq {tick : Tick ε} (h : Ending unit render tick) :
    tick.unit.decoder.registers = unit.decoder.registers := by
  cases h with
  | rendered hfinish hframe hrender =>
    obtain ⟨frame, -, rfl⟩ := except_map_eq_ok_iff.mp hfinish
    rfl
  | notRendered hfinish hframe hrender =>
    obtain ⟨frame, -, rfl⟩ := except_map_eq_ok_iff.mp hfinish
    rfl
  | notFinished hfinish => rfl

theorem registers_writeRegister_displayCommand (unit : VideoUnit) (value : UInt16) :
    (unit.access (.writeRegister 0x12 value)).decoder.registers =
      { unit.decoder.registers with
        system := unit.decoder.registers.system.write (.displayCommand .a) value } :=
  rfl

/-- Before the last line of a frame of 312 lines the bus selects wide interlaced frames at sixty
fields. The renderer refuses every frame. -/
def reformattingTicks : Nat → FrameTick Unit :=
  fun n ↦ ⟨if n = 311 then [.writeRegister 0x12 0xF00F] else [], fun _ ↦ .error ()⟩

theorem frames_keep_cadence_while_reformatting :
    let last := imageAtEndOfMemory.atTick reformattingTicks 311
    let after := (imageAtEndOfMemory.tickAt reformattingTicks 311).unit
    (imageAtEndOfMemory.tickAt reformattingTicks 310).result = .ok false ∧
      last.scanline = 311 ∧
      last.decoder.registers.system.sixtyHz = true ∧
      (imageAtEndOfMemory.atLine reformattingTicks 311).decoder.format =
        ⟨360, 280, 312, false, false⟩ ∧
      after.scanline = 0 ∧
      after.frameFormat reformattingTicks = ⟨384, 480, 524, false, true⟩ ∧
      after = (last.tick fun _ ↦ (.ok () : Except Unit Unit)).unit := by
  have hformat : imageAtEndOfMemory.frameFormat reformattingTicks = ⟨360, 280, 312, false, false⟩ :=
    (startsFrame _ rfl).latched.trans (by decide +kernel)
  have hidle : ∀ k < 311, reformattingTicks k = idleTicks (fun _ ↦ .error ()) k := by
    intro k hk
    rw [reformattingTicks, if_neg (Nat.ne_of_lt hk), idleTicks]
  have hline : 311 < (imageAtEndOfMemory.frameFormat
      (idleTicks fun _ ↦ (.error () : Except Unit Unit))).totalLines := by
    rw [frameFormat_imageAtEndOfMemory]
    decide
  obtain ⟨hruns, -, factors, hregisters⟩ :=
    runsTo_of_quiet reachable_imageAtEndOfMemory rfl quiet_imageAtEndOfMemory hline
  obtain ⟨hcadence, hrender⟩ := frames_keep_cadence
  have hframe := hcadence Unit imageAtEndOfMemory reformattingTicks 311
    (hruns.of_idle (by decide) hidle) (by rw [hformat])
  have hwritten : (imageAtEndOfMemory.atTick reformattingTicks 311).decoder.registers =
      { imageAtEndOfMemory.decoder.registers with
        contributionFactor := factors
        system := imageAtEndOfMemory.decoder.registers.system.write (.displayCommand .a)
          0xF00F } := by
    rw [atTick_of_idle hidle, reformattingTicks, if_pos rfl, List.foldl_cons, List.foldl_nil,
      registers_writeRegister_displayCommand, hregisters]
  have hafter : (imageAtEndOfMemory.tickAt reformattingTicks 311).unit.decoder.registers =
      (imageAtEndOfMemory.atTick reformattingTicks 311).decoder.registers :=
    hframe.ending.registers_eq
  dsimp only
  refine ⟨(hframe.pending 310 (by decide)).1, hframe.scanline_eq 311 (by decide), ?_, ?_,
    hframe.restarts, ?_, hrender Unit Unit _ _ _⟩
  · rw [hwritten]
    dsimp only
    decide +kernel
  · rw [(hframe.format_kept 311 (by decide)).1, hformat]
  · rw [(hframe.startsNext _).latched, atTick, reformattingTicks, if_neg (by decide),
      List.foldl_nil, hafter, hwritten]
    dsimp only
    decide +kernel

end VideoUnit

end DualPlaneVideo
