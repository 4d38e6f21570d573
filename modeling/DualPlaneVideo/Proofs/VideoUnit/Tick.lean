import DualPlaneVideo.Proofs.Decoder.Registers
import DualPlaneVideo.Proofs.VideoUnit.Reachable

/-!
# Ticks and what comes between them

A tick starts a frame, shows a line and goes on to the next one, and a failure in one of these keeps
the others from happening. Between the ticks of a frame the bus and the user have access to memory,
registers and settings, but not to the picture nor to the place that it has come to.
-/

namespace DualPlaneVideo

namespace VideoUnit

variable {ε : Type} {unit : VideoUnit} {render : FinishedFrame → Except ε Unit} {took : Bool}

/-! ## Accesses -/

/-- What the bus and the user do to a unit between two ticks of a frame. -/
inductive Access where
  | loadRam (address : Word) (bytes : List UInt8)
  | setByte (address : Word) (value : UInt8)
  | setWord (address : Word) (value : UInt16)
  | readRegister (offset : Word)
  | writeRegister (offset : Word) (value : UInt16)
  | writeDecoder (write : BusWrite)
  | reload (settings : Settings)

def access (unit : VideoUnit) : Access → VideoUnit
  | .loadRam address bytes => { unit with ram := unit.ram.load address bytes }
  | .setByte address value => { unit with ram := unit.ram.setByte address value }
  | .setWord address value => { unit with ram := unit.ram.setWord address value }
  | .readRegister offset => (unit.readRegister offset).2
  | .writeRegister offset value => unit.writeRegister offset value
  | .writeDecoder write => { unit with decoder := unit.decoder.write write }
  | .reload settings => unit.reload settings

/-- A bus write to the video start register or the display command register of a plane. -/
def Access.Touches (plane : Plane) : Access → Prop
  | .writeRegister offset _ => lowBitsPlane? offset = some plane ∨ highBitsPlane? offset = some plane
  | _ => False

theorem Reachable.access (h : unit.Reachable) (access : Access) : (unit.access access).Reachable := by
  cases access with
  | loadRam address bytes => exact h.loadRam address bytes
  | setByte address value => exact h.setByte address value
  | setWord address value => exact h.setWord address value
  | readRegister offset => exact h.readRegister offset
  | writeRegister offset value => exact h.writeRegister offset value
  | writeDecoder write => exact h.writeDecoder write
  | reload settings => exact h.reload settings

/-- What accesses, resets and ticks keep holds of every reachable unit. -/
@[elab_as_elim]
theorem Reachable.access_induction {motive : (unit : VideoUnit) → unit.Reachable → Prop}
    (initial : ∀ settings, motive (.initial settings) (.initial settings))
    (access : ∀ {unit : VideoUnit} (h : unit.Reachable) (one : Access),
      motive unit h → motive (unit.access one) (h.access one))
    (reset : ∀ {unit : VideoUnit} (h : unit.Reachable), motive unit h → motive unit.reset h.reset)
    (tick : ∀ {unit : VideoUnit} {ε : Type} (h : unit.Reachable)
      (render : FinishedFrame → Except ε Unit),
      motive unit h → motive (unit.tick render).unit (h.tick render))
    {unit : VideoUnit} (reachable : unit.Reachable) : motive unit reachable := by
  induction reachable with
  | initial settings => exact initial settings
  | loadRam h address bytes ih => exact access h (.loadRam address bytes) ih
  | setByte h address value ih => exact access h (.setByte address value) ih
  | setWord h address value ih => exact access h (.setWord address value) ih
  | readRegister h offset ih => exact access h (.readRegister offset) ih
  | writeRegister h offset value ih => exact access h (.writeRegister offset value) ih
  | writeDecoder h write ih => exact access h (.writeDecoder write) ih
  | reset h ih => exact reset h ih
  | reload h settings ih => exact access h (.reload settings) ih
  | tick h render ih => exact tick h render ih

theorem Reachable.foldl_access (h : unit.Reachable) (accesses : List Access) :
    (accesses.foldl VideoUnit.access unit).Reachable := by
  induction accesses generalizing unit with
  | nil => exact h
  | cons one rest ih => exact ih (h.access one)

/-- An access changes memory, read cursors, registers and settings. -/
theorem access_eq (unit : VideoUnit) (access : Access) :
    ∃ ram readCursors registers decoderSettings settings,
      unit.access access = { unit with
        decoder := { unit.decoder with registers, settings := decoderSettings }
        ram
        readCursors
        settings } := by
  cases access with
  | loadRam address bytes => exact ⟨_, _, unit.decoder.registers, unit.decoder.settings, _, rfl⟩
  | setByte address value => exact ⟨_, _, unit.decoder.registers, unit.decoder.settings, _, rfl⟩
  | setWord address value => exact ⟨_, _, unit.decoder.registers, unit.decoder.settings, _, rfl⟩
  | readRegister offset =>
    rw [VideoUnit.access, readRegister]
    split
    · exact ⟨_, _, unit.decoder.registers, unit.decoder.settings, _, rfl⟩
    · obtain ⟨registers, hread⟩ := unit.decoder.readSystem_eq offset
      dsimp only
      rw [hread]
      exact ⟨_, _, registers, unit.decoder.settings, _, rfl⟩
  | writeRegister offset value =>
    obtain ⟨registers, hwritten⟩ := unit.decoder.write_eq (.system offset value)
    rw [Decoder.write] at hwritten
    rw [VideoUnit.access, writeRegister, hwritten]
    split
    · exact ⟨_, _, unit.decoder.registers, unit.decoder.settings, _, rfl⟩
    · dsimp only
      split
      · exact ⟨_, _, registers, unit.decoder.settings, _, rfl⟩
      · exact ⟨_, _, registers, unit.decoder.settings, _, rfl⟩
  | writeDecoder write =>
    obtain ⟨registers, hwritten⟩ := unit.decoder.write_eq write
    rw [VideoUnit.access, hwritten]
    exact ⟨_, _, registers, unit.decoder.settings, _, rfl⟩
  | reload settings => exact ⟨_, _, unit.decoder.registers, settings, settings, rfl⟩

theorem scanline_access (unit : VideoUnit) (access : Access) :
    (unit.access access).scanline = unit.scanline := by
  obtain ⟨ram, readCursors, registers, decoderSettings, settings, haccess⟩ := access_eq unit access
  rw [haccess]

theorem format_access (unit : VideoUnit) (access : Access) :
    (unit.access access).decoder.format = unit.decoder.format := by
  obtain ⟨ram, readCursors, registers, decoderSettings, settings, haccess⟩ := access_eq unit access
  rw [haccess]

theorem get_readCursors_access {plane : Plane} {access : Access} (h : ¬ access.Touches plane) :
    (unit.access access).readCursors.get plane = unit.readCursors.get plane := by
  cases access with
  | writeRegister offset value =>
    obtain ⟨hlow, hhigh⟩ := not_or.mp h
    rw [VideoUnit.access, writeRegister]
    split
    · rename_i target htarget
      rw [htarget, Option.some_inj] at hlow
      exact PerPlane.get_set_of_ne _ (Ne.symm hlow) _
    · dsimp only
      split
      · rename_i target htarget
        rw [htarget, Option.some_inj] at hhigh
        exact PerPlane.get_set_of_ne _ (Ne.symm hhigh) _
      · rfl
  | readRegister offset =>
    rw [VideoUnit.access, readRegister]
    split <;> rfl
  | loadRam address bytes => rfl
  | setByte address value => rfl
  | setWord address value => rfl
  | writeDecoder write => rfl
  | reload settings => rfl

/-! ## The parts of a tick -/

theorem scanline_enterFrame (unit : VideoUnit) : unit.enterFrame.unit.scanline = unit.scanline := by
  unfold enterFrame
  split
  · dsimp only
    split <;> rfl
  · rfl

/-- After the first line a tick starts no frame. -/
theorem enterFrame_of_ne_zero (h : unit.scanline ≠ 0) :
    unit.enterFrame = ⟨unit, [], none⟩ := by
  rw [enterFrame, if_neg h]

/-- On the first line a tick latches the format. -/
theorem format_enterFrame (h : unit.scanline = 0) :
    unit.enterFrame.unit.decoder.format =
      ScreenFormat.ofRegisters unit.decoder.registers.system unit.decoder.registers.parameters := by
  unfold enterFrame
  rw [if_pos h]
  dsimp only
  split <;> exact Decoder.enterFrame_format _ _

theorem scanline_showLine (unit : VideoUnit) : unit.showLine.unit.scanline = unit.scanline := by
  unfold showLine
  split
  · dsimp only
    split <;> rfl
  · rfl

theorem format_showLine (unit : VideoUnit) :
    unit.showLine.unit.decoder.format = unit.decoder.format := by
  unfold showLine
  split
  · dsimp only
    split <;> exact Decoder.advanceLine_format _ _ _
  · rfl

theorem showLine_of_blanking (h : ¬ unit.scanline < unit.decoder.format.activeLines) :
    unit.showLine = ⟨unit, [], none⟩ := by
  rw [showLine, if_neg h]

/-- An active line that succeeds moves the cursors past what it has consumed, to where its programs
have loaded them last. -/
theorem showLine_of_active (h : unit.scanline < unit.decoder.format.activeLines)
    (hok : unit.showLine.failure? = none) :
    ∃ report, (unit.decoder.advanceLine unit.ram.memory unit.sources).result = .ok report ∧
      unit.showLine.unit = { unit with
        decoder := (unit.decoder.advanceLine unit.ram.memory unit.sources).decoder
        readCursors :=
          reloadCursors (advanceCursors unit.readCursors report.consumed) report.readCursors } := by
  unfold showLine at hok ⊢
  rw [if_pos h] at hok ⊢
  dsimp only at hok ⊢
  split at hok
  · cases hok
  · rename_i report hresult
    exact ⟨report, hresult, rfl⟩

/-- The ways in which a tick takes its course. -/
inductive Course (unit : VideoUnit) (render : FinishedFrame → Except ε Unit) : Tick ε → Prop where
  | notEntered {failure : Failure} (hfailure : unit.enterFrame.failure? = some failure) :
      Course unit render
        ⟨unit.enterFrame.unit, unit.enterFrame.raised, none, .error (.decoder failure)⟩
  | notShown {raised : List UInt8} {failure : Failure}
      (hentered : unit.enterFrame.failure? = none)
      (hfailure : unit.enterFrame.unit.showLine.failure? = some failure) :
      Course unit render
        ⟨unit.enterFrame.unit.showLine.unit, raised, none, .error (.decoder failure)⟩
  | left {raised : List UInt8} (hentered : unit.enterFrame.failure? = none)
      (hshown : unit.enterFrame.unit.showLine.failure? = none) :
      Course unit render (unit.enterFrame.unit.showLine.unit.leaveLine raised render)

theorem course (unit : VideoUnit) (render : FinishedFrame → Except ε Unit) :
    Course unit render (unit.tick render) := by
  unfold tick
  dsimp only
  split
  · rename_i hfailure
    exact .notEntered hfailure
  · rename_i hentered
    split
    · rename_i hfailure
      exact .notShown hentered hfailure
    · rename_i hshown
      exact .left hentered hshown

theorem format_leaveLine (unit : VideoUnit) (raised : List UInt8)
    (render : FinishedFrame → Except ε Unit) :
    (unit.leaveLine raised render).unit.decoder.format = unit.decoder.format := by
  unfold leaveLine
  dsimp only
  split
  · rfl
  · split
    · rfl
    · rename_i hfinish
      obtain ⟨frame, -, rfl⟩ := except_map_eq_ok_iff.mp hfinish
      rfl

/-- A tick changes the format on the first line only. -/
theorem format_tick (unit : VideoUnit) (render : FinishedFrame → Except ε Unit) :
    (unit.tick render).unit.decoder.format = unit.enterFrame.unit.decoder.format := by
  have hcourse := course unit render
  generalize unit.tick render = tick at hcourse ⊢
  cases hcourse with
  | notEntered hfailure => rfl
  | notShown _ hfailure => exact format_showLine _
  | left _ hshown => rw [format_leaveLine, format_showLine]

theorem leaveLine_of_lt (h : unit.scanline + 1 < unit.decoder.format.totalLines)
    (raised : List UInt8) (render : FinishedFrame → Except ε Unit) :
    unit.leaveLine raised render =
      ⟨{ unit with scanline := unit.scanline + 1 }, raised, none, .ok false⟩ := by
  simp only [leaveLine, h, if_true]

/-- Before the last line, a tick that succeeds goes on to the next line. -/
theorem tick_of_ok (hok : (unit.tick render).result = .ok took)
    (hlast : unit.scanline + 1 < unit.enterFrame.unit.decoder.format.totalLines) :
    unit.enterFrame.unit.showLine.failure? = none ∧ ∃ raised,
      unit.tick render =
        ⟨{ unit.enterFrame.unit.showLine.unit with scanline := unit.scanline + 1 }, raised, none,
          .ok false⟩ := by
  have hcourse := course unit render
  generalize unit.tick render = tick at hcourse hok ⊢
  cases hcourse with
  | notEntered hfailure => cases hok
  | notShown hentered hfailure => cases hok
  | left hentered hshown =>
    have hscanline : unit.enterFrame.unit.showLine.unit.scanline = unit.scanline := by
      rw [scanline_showLine, scanline_enterFrame]
    rw [leaveLine_of_lt (by rwa [hscanline, format_showLine]), hscanline]
    exact ⟨hshown, _, rfl⟩

end VideoUnit

end DualPlaneVideo
