import DualPlaneVideo.Proofs.Decoder.Interrupts
import DualPlaneVideo.Proofs.VideoUnit.FreshFrame
import DualPlaneVideo.Proofs.Word

/-!
# Resets

A reset keeps memory, the settings, the palette, the display parameters and most control registers.
The old format and pictures stay as well, but only until the next frame starts, and up to then
nothing shows them. So units that agree in what a reset keeps by design behave alike after it,
whatever their past.
-/

namespace DualPlaneVideo

namespace RegisterFile

variable {registers other : RegisterFile}

/-- The registers that a reset keeps are the same in both files. The cursor control register has
its enable bit cleared, which is bit 23. -/
structure SharesContents (registers other : RegisterFile) : Prop where
  transparency : other.transparency = registers.transparency
  frontPlane : other.frontPlane = registers.frontPlane
  paletteBank : other.paletteBank = registers.paletteBank
  transparentColor : other.transparentColor = registers.transparentColor
  maskColor : other.maskColor = registers.maskColor
  yuvSeed : other.yuvSeed = registers.yuvSeed
  cursorPosition : other.cursorPosition = registers.cursorPosition
  cursorControl : ∀ index, index ≠ 23 →
    other.cursorControl.bit index = registers.cursorControl.bit index
  cursorPattern : other.cursorPattern = registers.cursorPattern
  matteCommands : other.matteCommands = registers.matteCommands
  backdrop : other.backdrop = registers.backdrop
  mosaicFactor : other.mosaicFactor = registers.mosaicFactor
  contributionFactor : other.contributionFactor = registers.contributionFactor
  palette : other.palette = registers.palette
  parameters : other.parameters = registers.parameters

theorem SharesContents.reset_eq (h : registers.SharesContents other) :
    other.reset = registers.reset := by
  have hcursor : other.cursorControl &&& 0xFF7FFFFF = registers.cursorControl &&& 0xFF7FFFFF := by
    apply Word.ext_bit
    intro index
    rw [Word.bit_and, Word.bit_and]
    by_cases hindex : index = 23
    · have hmask : Word.bit 0xFF7FFFFF index = false := by
        rw [hindex]
        decide
      rw [hmask, Bool.and_false, Bool.and_false]
    · rw [h.cursorControl index hindex]
  simp only [reset, hcursor, h.transparency, h.frontPlane, h.paletteBank, h.transparentColor,
    h.maskColor, h.yuvSeed, h.cursorPosition, h.cursorPattern, h.matteCommands, h.backdrop,
    h.mosaicFactor, h.contributionFactor, h.palette, h.parameters]

end RegisterFile

namespace VideoUnit

variable {ε : Type} {unit other : VideoUnit} {format : ScreenFormat} {pictures : Pictures}

/-! ## Memory and settings -/

/-- Memory and settings are the same in both units, as they are before and after a tick. -/
structure SharesMemory (unit other : VideoUnit) : Prop where
  ram : other.ram = unit.ram
  settings : other.settings = unit.settings
  decoderSettings : other.decoder.settings = unit.decoder.settings

theorem SharesMemory.trans {last : VideoUnit} (h : unit.SharesMemory other)
    (hlast : other.SharesMemory last) : unit.SharesMemory last :=
  ⟨hlast.ram.trans h.ram, hlast.settings.trans h.settings,
    hlast.decoderSettings.trans h.decoderSettings⟩

theorem sharesMemory_enterFrame (unit : VideoUnit) : unit.SharesMemory unit.enterFrame.unit := by
  have hsettings := unit.decoder.enterFrame_settings unit.ram.memory
  unfold enterFrame
  split
  · dsimp only
    split
    · exact ⟨rfl, rfl, hsettings⟩
    · exact ⟨rfl, rfl, hsettings⟩
  · exact ⟨rfl, rfl, rfl⟩

theorem sharesMemory_showLine (unit : VideoUnit) : unit.SharesMemory unit.showLine.unit := by
  have hsettings := unit.decoder.advanceLine_settings unit.ram.memory unit.sources
  unfold showLine
  split
  · dsimp only
    split
    · exact ⟨rfl, rfl, hsettings⟩
    · exact ⟨rfl, rfl, hsettings⟩
  · exact ⟨rfl, rfl, rfl⟩

theorem sharesMemory_leaveLine (unit : VideoUnit) (raised : List UInt8)
    (render : FinishedFrame → Except ε Unit) :
    unit.SharesMemory (unit.leaveLine raised render).unit := by
  unfold leaveLine
  dsimp only
  split
  · exact ⟨rfl, rfl, rfl⟩
  · split
    · exact ⟨rfl, rfl, rfl⟩
    · rename_i hfinish
      obtain ⟨frame, -, rfl⟩ := except_map_eq_ok_iff.mp hfinish
      exact ⟨rfl, rfl, rfl⟩

theorem sharesMemory_tick (unit : VideoUnit) (render : FinishedFrame → Except ε Unit) :
    unit.SharesMemory (unit.tick render).unit := by
  have hentered := unit.sharesMemory_enterFrame
  have hshown := hentered.trans unit.enterFrame.unit.sharesMemory_showLine
  have hcourse := course unit render
  generalize unit.tick render = tick at hcourse ⊢
  cases hcourse with
  | notEntered hfailure => exact hentered
  | notShown _ hfailure => exact hshown
  | left _ hleft => exact hshown.trans (sharesMemory_leaveLine _ _ render)

/-- The decoder of a reachable unit has the settings of the unit. -/
theorem Reachable.settings_decoder (reachable : unit.Reachable) :
    unit.decoder.settings = unit.settings := by
  induction reachable with
  | initial settings => rfl
  | loadRam _ address bytes ih => exact ih
  | setByte _ address value ih => exact ih
  | setWord _ address value ih => exact ih
  | @readRegister unit _ offset ih =>
    obtain ⟨registers, hread⟩ := unit.decoder.readSystem_eq offset
    unfold VideoUnit.readRegister
    split
    · exact ih
    · dsimp only
      rw [hread]
      exact ih
  | @writeRegister unit _ offset value ih =>
    obtain ⟨registers, hwritten⟩ := unit.decoder.write_eq (.system offset value)
    rw [Decoder.write] at hwritten
    unfold VideoUnit.writeRegister
    rw [hwritten]
    split
    · exact ih
    · dsimp only
      split
      · exact ih
      · exact ih
  | @writeDecoder unit _ write ih =>
    obtain ⟨registers, hwritten⟩ := unit.decoder.write_eq write
    rw [hwritten]
    exact ih
  | reset _ ih => exact ih
  | reload _ settings _ => rfl
  | @tick unit _ _ render ih =>
    have hkept := unit.sharesMemory_tick render
    rw [hkept.decoderSettings, hkept.settings]
    exact ih

/-! ## What shows -/

/-- Two units that look the same over the bus. -/
structure LooksLike (unit other : VideoUnit) : Prop where
  scanline : other.scanline = unit.scanline
  readCursors : other.readCursors = unit.readCursors
  ram : other.ram = unit.ram
  register : ∀ offset, (other.readRegister offset).1 = (unit.readRegister offset).1
  controlRegister : ∀ opcode,
    other.decoder.readRegister opcode = unit.decoder.readRegister opcode
  paletteEntry : ∀ index, other.decoder.paletteEntry index = unit.decoder.paletteEntry index
  matteCommand : ∀ index, other.decoder.matteCommand index = unit.decoder.matteCommand index
  cursorRow : ∀ row, other.decoder.cursorRow row = unit.decoder.cursorRow row
  displayParameters : ∀ plane,
    other.decoder.displayParameters plane = unit.decoder.displayParameters plane

/-- The bus sees nothing of the screen but whether the display is active. -/
theorem looksLike_withScreen (h : (unit.decoder.withScreen format pictures).displayActive =
      unit.decoder.displayActive) : unit.LooksLike (unit.withScreen format pictures) where
  scanline := rfl
  readCursors := rfl
  ram := rfl
  register offset := by
    unfold readRegister
    split
    · rfl
    · exact Decoder.readSystem_withScreen_fst h offset
  controlRegister _ := rfl
  paletteEntry _ := rfl
  matteCommand _ := rfl
  cursorRow _ := rfl
  displayParameters _ := rfl

/-! ## Two courses -/

/-- The unit has come to the start of a frame, and its format and this one have active lines. -/
structure AwaitsFrame (unit : VideoUnit) (format : ScreenFormat) : Prop where
  scanline_eq : unit.scanline = 0
  line_eq : unit.decoder.line = 0
  activeLines_pos : 0 < unit.decoder.format.activeLines
  pos_activeLines : 0 < format.activeLines

theorem AwaitsFrame.access (h : unit.AwaitsFrame format) (access : Access) :
    (unit.access access).AwaitsFrame format := by
  obtain ⟨ram, readCursors, registers, decoderSettings, settings, haccess⟩ := access_eq unit access
  rw [haccess]
  exact ⟨h.scanline_eq, h.line_eq, h.activeLines_pos, h.pos_activeLines⟩

/-- In front of the first line, the display is active in every format. -/
theorem AwaitsFrame.displayActive_eq (h : unit.AwaitsFrame format) :
    (unit.decoder.withScreen format pictures).displayActive = unit.decoder.displayActive := by
  have hline : (unit.decoder.withScreen format pictures).line = 0 := h.line_eq
  have hformat : 0 < (unit.decoder.withScreen format pictures).format.activeLines :=
    h.pos_activeLines
  simp only [Decoder.displayActive, hline, hformat, h.line_eq, h.activeLines_pos]
  rfl

/-- On the first line a tick selects the format anew. -/
theorem tick_withScreen (hstart : unit.scanline = 0) (format : ScreenFormat) (pictures : Pictures)
    (render : FinishedFrame → Except ε Unit) :
    (unit.withScreen format pictures).tick render = (unit.withPictures pictures).tick render := by
  have hscreen : (unit.withScreen format pictures).scanline = 0 := hstart
  have hpictures : (unit.withPictures pictures).scanline = 0 := hstart
  have henter : (unit.withScreen format pictures).enterFrame =
      (unit.withPictures pictures).enterFrame := by
    rw [VideoUnit.enterFrame, if_pos hscreen, VideoUnit.enterFrame, if_pos hpictures]
    rfl
  rw [VideoUnit.tick, henter]
  rfl

/-- Two units with the same future: in a frame they share what it has shown, and in front of one
the formats may differ as well. -/
inductive SharesFuture (unit : VideoUnit) : VideoUnit → Prop where
  | inFrame {pictures : Pictures} (h : unit.SharesFrame pictures) :
      SharesFuture unit (unit.withPictures pictures)
  | beforeFrame {format : ScreenFormat} {pictures : Pictures} (h : unit.AwaitsFrame format) :
      SharesFuture unit (unit.withScreen format pictures)

namespace SharesFuture

theorem looksLike (h : unit.SharesFuture other) : unit.LooksLike other := by
  cases h with
  | inFrame h => exact looksLike_withScreen rfl
  | beforeFrame h => exact looksLike_withScreen h.displayActive_eq

theorem access (h : unit.SharesFuture other) (access : Access) :
    (unit.access access).SharesFuture (other.access access) := by
  cases h with
  | inFrame h =>
    rw [access_withPictures]
    exact .inFrame (h.access access)
  | beforeFrame h =>
    rw [access_withScreen]
    exact .beforeFrame (h.access access)

/-- A reset may leave other pictures behind, but not in the midst of a frame. -/
theorem reset (h : unit.SharesFuture other) : unit.reset.SharesFuture other.reset := by
  cases h with
  | @inFrame pictures h =>
    have hfirst : unit.reset.SharesFrame { pictures with frame := pictures.frame.fill .black } :=
      fun hne ↦ absurd rfl hne
    exact .inFrame hfirst
  | @beforeFrame format pictures h =>
    let left : Pictures := { pictures with frame := pictures.frame.fill .black }
    have hafter : unit.reset.SharesFuture (unit.reset.withScreen format left) :=
      .beforeFrame ⟨rfl, rfl, h.activeLines_pos, h.pos_activeLines⟩
    exact hafter

/-- A tick shows the same on both sides, and with it the frame of both has started. -/
theorem tick (h : unit.SharesFuture other) (render : FinishedFrame → Except ε Unit) :
    let tick := unit.tick render
    ∃ after, other.tick render = { tick with unit := after } ∧ tick.unit.SharesFuture after := by
  intro tick
  have hframe {pictures : Pictures} (hshares : unit.SharesFrame pictures) :
      ∃ after, (unit.withPictures pictures).tick render = { tick with unit := after } ∧
        tick.unit.SharesFuture after := by
    obtain ⟨next, heq, hnext⟩ := hshares.tick render
    exact ⟨_, heq, .inFrame hnext⟩
  cases h with
  | inFrame h => exact hframe h
  | @beforeFrame format pictures h =>
    rw [tick_withScreen h.scanline_eq]
    exact hframe fun hne ↦ absurd h.scanline_eq hne

end SharesFuture

/-- The unit after an operation. -/
def perform (unit : VideoUnit) : Operation ε → VideoUnit
  | .access access => unit.access access
  | .reset => unit.reset
  | .tick render => (unit.tick render).unit

/-- Whatever happens to both units, it has the same outcomes, and they keep looking alike. -/
theorem SharesFuture.foldl_perform (h : unit.SharesFuture other)
    (operations : List (Operation ε)) :
    other.outcomes operations = unit.outcomes operations ∧
      (operations.foldl perform unit).SharesFuture (operations.foldl perform other) := by
  induction operations generalizing unit other with
  | nil => exact ⟨rfl, h⟩
  | cons operation rest ih =>
    cases operation with
    | access access => exact ih (h.access access)
    | reset => exact ih h.reset
    | tick render =>
      obtain ⟨after, heq, hafter⟩ := h.tick render
      obtain ⟨houtcomes, hrest⟩ := ih hafter
      simp only [VideoUnit.outcomes, List.foldl_cons, perform, heq, houtcomes]
      exact ⟨trivial, hrest⟩

/-- Units that agree in what a reset keeps share their future after it. -/
theorem sharesFuture_reset (hunit : unit.Reachable) (hother : other.Reachable)
    (hram : other.ram = unit.ram) (hsettings : other.settings = unit.settings)
    (hregisters : unit.decoder.registers.SharesContents other.decoder.registers) :
    unit.reset.SharesFuture other.reset := by
  have hdecoderSettings : other.decoder.settings = unit.decoder.settings := by
    rw [hunit.settings_decoder, hother.settings_decoder, hsettings]
  have hawaits : unit.reset.AwaitsFrame other.decoder.format :=
    ⟨rfl, rfl, hunit.decoder.regular.activeLines_pos, hother.decoder.regular.activeLines_pos⟩
  let left : Pictures :=
    ⟨other.decoder.planeLines, other.decoder.frame.fill .black, other.decoder.backdrop⟩
  have hreset : other.reset = unit.reset.withScreen other.decoder.format left := by
    simp only [VideoUnit.reset, Decoder.reset, hregisters.reset_eq, hram, hsettings,
      hdecoderSettings]
    rfl
  rw [hreset]
  exact .beforeFrame hawaits

/-- A reset erases everything that it does not keep by design. Take reachable units with the same
memory, settings, palette, display parameters and control registers, except for image coding and the
cursor's enable bit. After a reset of both, every course of accesses, resets and ticks has the same
outcomes, and at any point the units look alike over the bus. -/
theorem reset_erases_history (unit other : VideoUnit) (hunit : unit.Reachable)
    (hother : other.Reachable) (hram : other.ram = unit.ram)
    (hsettings : other.settings = unit.settings)
    (hregisters : unit.decoder.registers.SharesContents other.decoder.registers)
    (operations : List (Operation ε)) :
    other.reset.outcomes operations = unit.reset.outcomes operations ∧
      (operations.foldl perform unit.reset).LooksLike (operations.foldl perform other.reset) := by
  have hreset := sharesFuture_reset hunit hother hram hsettings hregisters
  obtain ⟨houtcomes, hafter⟩ := hreset.foldl_perform operations
  exact ⟨houtcomes, hafter.looksLike⟩

/-- A blank frame of wide lines at sixty fields, about to start, with an image selected. -/
def wideBlank : VideoUnit :=
  [.writeRegister 0x12 0x6000, .writeDecoder (.register 0xC0 3)].foldl access (initial default)

/-- Turns the cursor on and interrupts of channel A off, and lets both planes contribute fully. -/
def lateWrites : List Access :=
  [.writeDecoder (.register 0xCE 0x800000), .writeRegister 0x10 0x8000,
    .writeDecoder (.register 0xDB 63), .writeDecoder (.register 0xDC 63)]

theorem foldl_lateWrites (unit : VideoUnit) :
    let written := lateWrites.foldl access unit
    written.ram = unit.ram ∧ written.settings = unit.settings ∧
      ∃ system, written.decoder.registers = { unit.decoder.registers with
        cursorControl := 0x800000
        contributionFactor := .both 63
        system } :=
  ⟨rfl, rfl, _, rfl⟩

/-- A frame that is left on its second line, with registers changed that a reset does not keep. -/
theorem foldl_lateWrites_wideBlank (render : FinishedFrame → Except ε Unit) :
    let left := lateWrites.foldl access (wideBlank.tick render).unit
    left.Reachable ∧ left.scanline = 1 ∧ left.ram = (initial default).ram ∧
      left.settings = (initial default).settings ∧
      (initial default).decoder.registers.SharesContents left.decoder.registers := by
  have reachable : wideBlank.Reachable := (Reachable.initial default).foldl_access _
  have hquiet : wideBlank.decoder.registers.Quiet :=
    ⟨by decide +kernel, by decide +kernel, by decide +kernel⟩
  have hlast : wideBlank.scanline + 1 < wideBlank.enterFrame.unit.decoder.format.totalLines := by
    rw [format_enterFrame rfl]
    decide +kernel
  have hcursor (index : Nat) (hindex : index ≠ 23) :
      Word.bit 0x800000 index = Word.bit 0 index := by
    have hbits : ∀ index < 32, index ≠ 23 → Word.bit 0x800000 index = Word.bit 0 index := by decide
    exact Word.bit_eq_of_lt fun hlow ↦ hbits index hlow hindex
  have hkept := wideBlank.sharesMemory_tick render
  obtain ⟨hok, factors, hregisters⟩ := tick_of_quiet reachable hquiet hlast render
  obtain ⟨-, raised, htick⟩ := tick_of_ok hok hlast
  obtain ⟨hram, hsettings, system, hwritten⟩ := foldl_lateWrites (wideBlank.tick render).unit
  intro left
  refine ⟨(reachable.tick render).foldl_access _, ?_, hram.trans hkept.ram,
    hsettings.trans hkept.settings, ?_⟩
  · rw [foldl_access_scanline, htick]
    rfl
  · rw [hwritten, hregisters]
    exact {
      transparency := rfl
      frontPlane := rfl
      paletteBank := rfl
      transparentColor := rfl
      maskColor := rfl
      yuvSeed := rfl
      cursorPosition := rfl
      cursorControl := hcursor
      cursorPattern := rfl
      matteCommands := rfl
      backdrop := rfl
      mosaicFactor := rfl
      contributionFactor := rfl
      palette := rfl
      parameters := rfl }

theorem reset_erases_history_in_wide_frame :
    let render := fun _ ↦ (.ok () : Except Unit Unit)
    let left := lateWrites.foldl access (wideBlank.tick render).unit
    let operations : List (Operation Unit) :=
      [.access (.writeRegister 0x12 0x8000), .tick render, .access (.readRegister 0x00),
        .tick render]
    left.scanline = 1 ∧
      left.reset.outcomes operations = (initial default).reset.outcomes operations ∧
      (operations.foldl perform (initial default).reset).LooksLike
        (operations.foldl perform left.reset) := by
  intro render left operations
  obtain ⟨hleft, hscanline, hram, hsettings, hregisters⟩ := foldl_lateWrites_wideBlank render
  exact ⟨hscanline, reset_erases_history (initial default) left (.initial default) hleft hram
    hsettings hregisters operations⟩

end VideoUnit

end DualPlaneVideo
