import DualPlaneVideo.Proofs.ControlProgram.Registers
import DualPlaneVideo.Proofs.Decoder.Reachable

/-!
# Registers of a decoder

Showing a line changes the contribution factors and no other register; everything else that a
decoder does to its registers is done by control programs or over the bus. A property that all of
these keep holds in every reachable decoder.
-/

namespace DualPlaneVideo

/-- What holds of every format that registers select. -/
structure ScreenFormat.Regular (format : ScreenFormat) : Prop where
  baseWidth_even : format.baseWidth % 2 = 0
  activeLines_pos : 0 < format.activeLines
  activeLines_lt : format.activeLines < format.totalLines

theorem ScreenFormat.regular_ofRegisters (system : SystemRegisters)
    (parameters : PerPlane DisplayParameters) : (ofRegisters system parameters).Regular := by
  unfold ofRegisters
  constructor
  · dsimp only
    split <;> rfl
  · dsimp only
    split <;> split <;> decide
  · dsimp only
    split <;> split <;> decide

namespace Decoder

variable {decoder after : Decoder}

/-- The contribution factors after the matte's steps at the first `count` positions of a line. -/
def matteFactors (registers : RegisterFile) (count : Nat) : PerPlane UInt8 :=
  ((startMatte registers).run registers.matteCommands count).factors

theorem factors_scanRow (decoder : Decoder) : decoder.scanRow.matte.factors =
    matteFactors decoder.registers decoder.format.baseWidth :=
  congrArg MatteState.factors (LineView.scan_matte decoder.format.baseWidth)

/-- Scanning a line changes the pictures and leaves the contribution factors to the matte. -/
theorem scanLines_eq (h : decoder.scanLines = .ok after) : ∃ frame backdrop,
    after = { decoder with
      registers := { decoder.registers with
        contributionFactor := matteFactors decoder.registers decoder.format.baseWidth }
      frame
      backdrop } := by
  unfold scanLines at h
  dsimp only at h
  split at h
  · split at h
    · cases h
    · cases h
      rw [factors_scanRow]
      exact ⟨_, _, rfl⟩
  · cases h

/-- Showing a line changes the pictures and leaves the contribution factors to the matte, also where
it fails. A line that is not scanned has no step of the matte. -/
theorem showLine_matte (decoder : Decoder) (sources : PerPlane (List UInt8)) :
    ∃ count planeLines frame backdrop,
      (decoder.showLine sources).1 = { decoder with
        registers := { decoder.registers with
          contributionFactor := matteFactors decoder.registers count }
        planeLines
        frame
        backdrop } := by
  unfold showLine
  split
  · obtain ⟨buffers, hdecoded, -⟩ := decodeLines_fst decoder sources
    unfold pictureLine
    rcases hrun : decoder.decodeLines sources with ⟨decoded, failure | consumed⟩
    all_goals
      rw [hrun] at hdecoded
      cases hdecoded
    · exact ⟨0, _, _, _, rfl⟩
    · dsimp only
      split
      · split
        · exact ⟨0, _, _, _, rfl⟩
        · rename_i hscan
          obtain ⟨frame, backdrop, rfl⟩ := scanLines_eq hscan
          exact ⟨_, buffers, frame, backdrop, rfl⟩
      · exact ⟨0, _, _, _, rfl⟩
  · unfold blankLine
    split
    · split
      · exact ⟨0, _, _, _, rfl⟩
      · exact ⟨0, _, _, _, rfl⟩
    · exact ⟨0, _, _, _, rfl⟩

/-- Showing a line changes the pictures and the contribution factors, also where it fails. -/
theorem showLine_fst (decoder : Decoder) (sources : PerPlane (List UInt8)) :
    ∃ factors planeLines frame backdrop,
      (decoder.showLine sources).1 = { decoder with
        registers := { decoder.registers with contributionFactor := factors }
        planeLines
        frame
        backdrop } := by
  obtain ⟨count, planeLines, frame, backdrop, hshown⟩ := showLine_matte decoder sources
  exact ⟨_, planeLines, frame, backdrop, hshown⟩

theorem showLine_registers (decoder : Decoder) (sources : PerPlane (List UInt8)) : ∃ factors,
    (decoder.showLine sources).1.registers =
      { decoder.registers with contributionFactor := factors } := by
  obtain ⟨factors, planeLines, frame, backdrop, hshown⟩ := showLine_fst decoder sources
  rw [hshown]
  exact ⟨factors, rfl⟩

/-- The matte at the end of a line, if the line comes to be scanned. -/
def scannedMatte? (decoder : Decoder) (sources : PerPlane (List UInt8)) : Option MatteState :=
  if decoder.registers.system.displayEnabled then
    match decoder.decodeLines sources with
    | (_, .error _) => none
    | (decoded, .ok _) =>
      if decoded.line < decoded.format.activeLines then some decoded.scanRow.matte else none
  else none

/-- A line that is shown leaves the contribution factors as the matte does, and as they were if
there is none. -/
theorem contributionFactor_showLine {consumed : PerPlane Nat} {sources : PerPlane (List UInt8)}
    (h : decoder.showLine sources = (after, .ok consumed)) :
    after.registers.contributionFactor = ((decoder.scannedMatte? sources).map
      MatteState.factors).getD decoder.registers.contributionFactor := by
  unfold showLine at h
  unfold scannedMatte?
  by_cases henabled : decoder.registers.system.displayEnabled = true
  · rw [if_pos henabled] at h ⊢
    unfold pictureLine at h
    obtain ⟨buffers, hdecoded, -⟩ := decodeLines_fst decoder sources
    rcases hrun : decoder.decodeLines sources with ⟨decoded, failure | count⟩
    all_goals
      rw [hrun] at h hdecoded
      cases hdecoded
      dsimp only at h ⊢
    · cases h
    · split at h
      · rename_i hline
        rw [if_pos hline]
        cases hscan : scanLines { decoder with planeLines := buffers } with
        | error failure =>
          rw [hscan] at h
          cases h
        | ok scanned =>
          rw [hscan] at h
          cases h
          obtain ⟨frame, backdrop, rfl⟩ := scanLines_eq hscan
          exact (factors_scanRow _).symm
      · rename_i hline
        rw [if_neg hline]
        cases h
        rfl
  · rw [if_neg henabled] at h ⊢
    unfold blankLine at h
    split at h
    · split at h
      · cases h
      · cases h
        rfl
    · cases h
      rfl

/-- The bus writes registers only. -/
theorem write_eq (decoder : Decoder) (write : BusWrite) :
    ∃ registers, decoder.write write = { decoder with registers } := by
  cases write with
  | system offset value =>
    rw [Decoder.write, writeSystem]
    split
    · exact ⟨_, rfl⟩
    · exact ⟨decoder.registers, rfl⟩
  | register opcode value => exact ⟨_, rfl⟩
  | paletteEntry index value => exact ⟨_, rfl⟩
  | matteCommand index value => exact ⟨_, rfl⟩
  | cursorRow row pattern => exact ⟨_, rfl⟩

theorem readSystem_eq (decoder : Decoder) (offset : Word) :
    ∃ registers, (decoder.readSystem offset).2 = { decoder with registers } := by
  unfold readSystem
  dsimp only
  split
  · exact ⟨decoder.registers, rfl⟩
  · exact ⟨_, rfl⟩
  · exact ⟨decoder.registers, rfl⟩
  · exact ⟨decoder.registers, rfl⟩
  · exact ⟨decoder.registers, rfl⟩

/-- A line and the programs after it leave the format, the settings and the timer of the cursor. -/
theorem advanceLine_eq (decoder : Decoder) (memory : Memory) (sources : PerPlane (List UInt8)) :
    ∃ registers areas line planeLines frame backdrop,
      (decoder.advanceLine memory sources).decoder =
        { decoder with registers, areas, line, planeLines, frame, backdrop } := by
  obtain ⟨factors, planeLines, frame, backdrop, hshown⟩ := showLine_fst decoder sources
  unfold advanceLine
  rcases hshow : decoder.showLine sources with ⟨shown, failure | consumed⟩
  all_goals
    rw [hshow] at hshown
    cases hshown
    dsimp only
  · exact ⟨_, _, _, _, _, _, rfl⟩
  · split <;> exact ⟨_, _, _, _, _, _, rfl⟩

/-- The format stays as it is until the next frame. -/
theorem advanceLine_format (decoder : Decoder) (memory : Memory)
    (sources : PerPlane (List UInt8)) :
    (decoder.advanceLine memory sources).decoder.format = decoder.format := by
  obtain ⟨registers, areas, line, planeLines, frame, backdrop, hafter⟩ :=
    decoder.advanceLine_eq memory sources
  rw [hafter]

theorem advanceLine_settings (decoder : Decoder) (memory : Memory)
    (sources : PerPlane (List UInt8)) :
    (decoder.advanceLine memory sources).decoder.settings = decoder.settings := by
  obtain ⟨registers, areas, line, planeLines, frame, backdrop, hafter⟩ :=
    decoder.advanceLine_eq memory sources
  rw [hafter]

theorem advanceLine_blink (decoder : Decoder) (memory : Memory)
    (sources : PerPlane (List UInt8)) :
    (decoder.advanceLine memory sources).decoder.blink = decoder.blink := by
  obtain ⟨registers, areas, line, planeLines, frame, backdrop, hafter⟩ :=
    decoder.advanceLine_eq memory sources
  rw [hafter]

/-- The start of a frame latches the format, goes back to the first line and runs programs. -/
theorem enterFrame_eq (decoder : Decoder) (memory : Memory) : ∃ registers areas,
    (decoder.enterFrame memory).decoder =
      { decoder.latchFormat with line := 0, registers, areas } := by
  unfold enterFrame
  dsimp only
  split
  · exact ⟨_, _, rfl⟩
  · exact ⟨_, _, rfl⟩

theorem enterFrame_settings (decoder : Decoder) (memory : Memory) :
    (decoder.enterFrame memory).decoder.settings = decoder.settings := by
  obtain ⟨registers, areas, hentered⟩ := decoder.enterFrame_eq memory
  rw [hentered]
  rfl

theorem enterFrame_format (decoder : Decoder) (memory : Memory) :
    (decoder.enterFrame memory).decoder.format =
      ScreenFormat.ofRegisters decoder.registers.system decoder.registers.parameters := by
  unfold enterFrame
  dsimp only
  split <;> rfl

theorem enterFrame_registers (decoder : Decoder) (memory : Memory) :
    (decoder.enterFrame memory).decoder.registers =
      (Schedule.runInitialAreas memory decoder.settings decoder.registers decoder.areas).registers := by
  unfold enterFrame
  dsimp only
  split <;> rfl

/-- What the bus does, whether it reads or writes, is a change of registers. -/
@[elab_as_elim]
theorem Reachable.registers_induction {motive : (decoder : Decoder) → decoder.Reachable → Prop}
    (initial : ∀ settings, motive (.initial settings) (.initial settings))
    (registers : ∀ {decoder : Decoder} (h : decoder.Reachable) registers
      (hafter : Reachable { decoder with registers }),
      motive decoder h → motive { decoder with registers } hafter)
    (reset : ∀ {decoder : Decoder} (h : decoder.Reachable),
      motive decoder h → motive decoder.reset h.reset)
    (reload : ∀ {decoder : Decoder} (h : decoder.Reachable) settings,
      motive decoder h → motive (decoder.reload settings) (h.reload settings))
    (enterFrame : ∀ {decoder : Decoder} (h : decoder.Reachable) memory,
      motive decoder h → motive (decoder.enterFrame memory).decoder (h.enterFrame memory))
    (advanceLine : ∀ {decoder : Decoder} (h : decoder.Reachable) memory sources,
      motive decoder h →
        motive (decoder.advanceLine memory sources).decoder (h.advanceLine memory sources))
    (finishFrame : ∀ {decoder after : Decoder} (h : decoder.Reachable)
      (hfinish : decoder.finishFrame = .ok after),
      motive decoder h → motive after (h.finishFrame hfinish))
    {decoder : Decoder} (reachable : decoder.Reachable) : motive decoder reachable := by
  induction reachable with
  | initial settings => exact initial settings
  | @write decoder h write ih =>
    have hafter := h.write write
    obtain ⟨changed, hwritten⟩ := decoder.write_eq write
    simp only [hwritten] at hafter ⊢
    exact registers h changed hafter ih
  | @readSystem decoder h offset ih =>
    have hafter := h.readSystem offset
    obtain ⟨changed, hread⟩ := decoder.readSystem_eq offset
    simp only [hread] at hafter ⊢
    exact registers h changed hafter ih
  | reset h ih => exact reset h ih
  | reload h settings ih => exact reload h settings ih
  | enterFrame h memory ih => exact enterFrame h memory ih
  | advanceLine h memory sources ih => exact advanceLine h memory sources ih
  | finishFrame h hfinish ih => exact finishFrame h hfinish ih

/-- The format of a reachable decoder is one that registers have selected. -/
theorem Reachable.of_format {property : ScreenFormat → Prop}
    (h : ∀ system parameters, property (.ofRegisters system parameters))
    (reachable : decoder.Reachable) : property decoder.format := by
  induction reachable using Reachable.registers_induction with
  | initial settings => exact h _ _
  | registers _ registers _ ih => exact ih
  | reset _ ih => exact ih
  | reload _ settings ih => exact ih
  | enterFrame _ memory ih =>
    rw [enterFrame_format]
    exact h _ _
  | advanceLine _ memory sources ih =>
    rw [advanceLine_format]
    exact ih
  | finishFrame _ hfinish ih =>
    obtain ⟨frame, -, rfl⟩ := except_map_eq_ok_iff.mp hfinish
    exact ih

theorem Reachable.regular (reachable : decoder.Reachable) : decoder.format.Regular :=
  reachable.of_format ScreenFormat.regular_ofRegisters

/-- The registers after a line are those that the line leaves, or those that its programs leave. -/
theorem advanceLine_registers (decoder : Decoder) (memory : Memory)
    (sources : PerPlane (List UInt8)) :
    let shown := (decoder.showLine sources).1
    (decoder.advanceLine memory sources).decoder.registers = shown.registers ∨
      (decoder.advanceLine memory sources).decoder.registers =
        (Schedule.runDisplayAreas memory shown.settings shown.registers shown.areas).registers := by
  intro shown
  unfold advanceLine
  rcases hshow : decoder.showLine sources with ⟨after, failure | consumed⟩
  · left
    simp only [shown, hshow]
  · right
    simp only [shown, hshow]
    split <;> rfl

end Decoder

/-- A property of registers that no operation of a decoder can end. -/
structure RegisterFile.Lasting (property : RegisterFile → Prop) : Prop where
  initial : property .initial
  keptBy : ∀ channel policy, RegisterFile.KeptBy channel policy property
  paletteEntry : ∀ registers index value, property registers →
    property { registers with palette := registers.palette.write index value }
  matteCommand : ∀ registers (index : Fin 8) (value : Word), property registers →
    property { registers with
      matteCommands := registers.matteCommands.set index value.low24 index.isLt }
  cursorRow : ∀ registers (row : Fin 16) pattern, property registers →
    property { registers with
      cursorPattern := registers.cursorPattern.set row pattern row.isLt }
  system : ∀ registers system, property registers → property { registers with system }
  matte : ∀ registers count, property registers →
    property { registers with contributionFactor := Decoder.matteFactors registers count }
  reset : ∀ registers, property registers → property registers.reset

namespace Decoder

variable {property : RegisterFile → Prop} {decoder : Decoder}

theorem write_keeps (h : RegisterFile.Lasting property) (hregisters : property decoder.registers)
    (write : BusWrite) : property (decoder.write write).registers := by
  cases write with
  | register opcode value =>
    exact (h.keptBy (busChannel opcode) _).load _ opcode _ value.low24_lt hregisters
  | paletteEntry index value => exact h.paletteEntry _ index value hregisters
  | matteCommand index value => exact h.matteCommand _ _ value hregisters
  | cursorRow row pattern => exact h.cursorRow _ _ pattern hregisters
  | system offset value =>
    rw [Decoder.write, writeSystem]
    split
    · exact h.system _ _ hregisters
    · exact hregisters

theorem readSystem_keeps (h : RegisterFile.Lasting property)
    (hregisters : property decoder.registers) (offset : Word) :
    property (decoder.readSystem offset).2.registers := by
  unfold readSystem
  dsimp only
  split
  · exact hregisters
  · exact h.system _ _ hregisters
  · exact hregisters
  · exact hregisters
  · exact hregisters

theorem advanceLine_keeps (h : RegisterFile.Lasting property)
    (hregisters : property decoder.registers) (memory : Memory)
    (sources : PerPlane (List UInt8)) :
    property (decoder.advanceLine memory sources).decoder.registers := by
  have hshown : property (decoder.showLine sources).1.registers := by
    obtain ⟨count, planeLines, frame, backdrop, hline⟩ := showLine_matte decoder sources
    rw [hline]
    exact h.matte _ count hregisters
  rcases advanceLine_registers decoder memory sources with hafter | hafter
  · rw [hafter]
    exact hshown
  · rw [hafter]
    exact Schedule.runChannels_keeps
      (fun _ channel _ hturn ↦ Schedule.runDisplay_keeps (h.keptBy channel _) hturn) hshown

theorem Reachable.registers (h : RegisterFile.Lasting property) (reachable : decoder.Reachable) :
    property decoder.registers := by
  induction reachable with
  | initial settings => exact h.initial
  | write _ write ih => exact write_keeps h ih write
  | readSystem _ offset ih => exact readSystem_keeps h ih offset
  | reset _ ih => exact h.reset _ ih
  | reload _ settings ih => exact ih
  | enterFrame _ memory ih =>
    rw [enterFrame_registers]
    exact Schedule.runChannels_keeps
      (fun _ channel _ hturn ↦ Schedule.runInitial_keeps (h.keptBy channel _) hturn) ih
  | advanceLine _ memory sources ih => exact advanceLine_keeps h ih memory sources
  | finishFrame _ hfinish ih =>
    obtain ⟨frame, -, rfl⟩ := except_map_eq_ok_iff.mp hfinish
    exact ih

end Decoder

end DualPlaneVideo
