import DualPlaneVideo.Proofs.Decoder.Reachable
import DualPlaneVideo.VideoUnit

/-!
# Reachable video units

The states that a video unit comes to from its initial one by accesses to memory and registers, by
writes to its decoder, by resets and changes of the settings, and by ticks, whether these fail or
not. The decoder of a reachable unit is reachable.
-/

namespace DualPlaneVideo

/-- A property of decoders that nothing but new settings can end. -/
structure Decoder.KeptBesideReload (property : Decoder → Prop) : Prop where
  write : ∀ decoder write, property decoder → property (decoder.write write)
  readSystem : ∀ decoder offset, property decoder → property (decoder.readSystem offset).2
  reset : ∀ decoder, property decoder → property decoder.reset
  enterFrame : ∀ decoder memory, property decoder → property (decoder.enterFrame memory).decoder
  advanceLine : ∀ decoder memory sources, property decoder →
    property (decoder.advanceLine memory sources).decoder
  finishFrame : ∀ decoder after, decoder.finishFrame = .ok after → property decoder → property after

theorem Decoder.Reachable.keptBesideReload : KeptBesideReload Reachable where
  write _ write h := h.write write
  readSystem _ offset h := h.readSystem offset
  reset _ h := h.reset
  enterFrame _ memory h := h.enterFrame memory
  advanceLine _ memory sources h := h.advanceLine memory sources
  finishFrame _ _ hfinish h := h.finishFrame hfinish

namespace VideoUnit

inductive Reachable : VideoUnit → Prop where
  | initial (settings : Settings) : Reachable (initial settings)
  | loadRam {unit : VideoUnit} (h : Reachable unit) (address : Word) (bytes : List UInt8) :
      Reachable { unit with ram := unit.ram.load address bytes }
  | setByte {unit : VideoUnit} (h : Reachable unit) (address : Word) (value : UInt8) :
      Reachable { unit with ram := unit.ram.setByte address value }
  | setWord {unit : VideoUnit} (h : Reachable unit) (address : Word) (value : UInt16) :
      Reachable { unit with ram := unit.ram.setWord address value }
  | readRegister {unit : VideoUnit} (h : Reachable unit) (offset : Word) :
      Reachable (unit.readRegister offset).2
  | writeRegister {unit : VideoUnit} (h : Reachable unit) (offset : Word) (value : UInt16) :
      Reachable (unit.writeRegister offset value)
  | writeDecoder {unit : VideoUnit} (h : Reachable unit) (write : BusWrite) :
      Reachable { unit with decoder := unit.decoder.write write }
  | reset {unit : VideoUnit} (h : Reachable unit) : Reachable unit.reset
  | reload {unit : VideoUnit} (h : Reachable unit) (settings : Settings) :
      Reachable (unit.reload settings)
  | tick {unit : VideoUnit} {ε : Type} (h : Reachable unit)
      (render : FinishedFrame → Except ε Unit) : Reachable (unit.tick render).unit

variable {unit : VideoUnit} {property : Decoder → Prop}

/-! ## The decoder in a unit -/

theorem enterFrame_keeps (h : Decoder.KeptBesideReload property)
    (hdecoder : property unit.decoder) : property unit.enterFrame.unit.decoder := by
  have hentered := h.enterFrame unit.decoder unit.ram.memory hdecoder
  unfold enterFrame
  split
  · dsimp only
    split
    · exact hentered
    · exact hentered
  · exact hdecoder

theorem showLine_keeps (h : Decoder.KeptBesideReload property) (hdecoder : property unit.decoder) :
    property unit.showLine.unit.decoder := by
  have hadvanced := h.advanceLine unit.decoder unit.ram.memory unit.sources hdecoder
  unfold showLine
  split
  · dsimp only
    split
    · exact hadvanced
    · exact hadvanced
  · exact hdecoder

theorem leaveLine_keeps {ε : Type} (h : Decoder.KeptBesideReload property)
    (hdecoder : property unit.decoder) (raised : List UInt8)
    (render : FinishedFrame → Except ε Unit) :
    property (unit.leaveLine raised render).unit.decoder := by
  unfold leaveLine
  dsimp only
  split
  · exact hdecoder
  · split
    · exact hdecoder
    · rename_i hfinish
      exact h.finishFrame _ _ hfinish hdecoder

theorem tick_keeps {ε : Type} (h : Decoder.KeptBesideReload property)
    (hdecoder : property unit.decoder) (render : FinishedFrame → Except ε Unit) :
    property (unit.tick render).unit.decoder := by
  have hfirst := enterFrame_keeps h hdecoder
  have hsecond := showLine_keeps h hfirst
  unfold tick
  dsimp only
  split
  · exact hfirst
  · split
    · exact hsecond
    · exact leaveLine_keeps h hsecond _ render

theorem readRegister_keeps (h : Decoder.KeptBesideReload property)
    (hdecoder : property unit.decoder) (offset : Word) :
    property (unit.readRegister offset).2.decoder := by
  unfold readRegister
  split
  · exact hdecoder
  · exact h.readSystem _ offset hdecoder

theorem writeRegister_keeps (h : Decoder.KeptBesideReload property)
    (hdecoder : property unit.decoder) (offset : Word) (value : UInt16) :
    property (unit.writeRegister offset value).decoder := by
  have hwritten := h.write unit.decoder (.system offset value) hdecoder
  unfold writeRegister
  split
  · exact hdecoder
  · dsimp only
    split
    · exact hwritten
    · exact hwritten

theorem reachable_enterFrame (h : unit.decoder.Reachable) :
    unit.enterFrame.unit.decoder.Reachable :=
  enterFrame_keeps Decoder.Reachable.keptBesideReload h

theorem reachable_showLine (h : unit.decoder.Reachable) :
    unit.showLine.unit.decoder.Reachable :=
  showLine_keeps Decoder.Reachable.keptBesideReload h

theorem reachable_tick {ε : Type} (h : unit.decoder.Reachable)
    (render : FinishedFrame → Except ε Unit) : (unit.tick render).unit.decoder.Reachable :=
  tick_keeps Decoder.Reachable.keptBesideReload h render

theorem reachable_readRegister (h : unit.decoder.Reachable) (offset : Word) :
    (unit.readRegister offset).2.decoder.Reachable :=
  readRegister_keeps Decoder.Reachable.keptBesideReload h offset

theorem reachable_writeRegister (h : unit.decoder.Reachable) (offset : Word) (value : UInt16) :
    (unit.writeRegister offset value).decoder.Reachable :=
  writeRegister_keeps Decoder.Reachable.keptBesideReload h offset value

theorem Reachable.decoder (reachable : unit.Reachable) : unit.decoder.Reachable := by
  induction reachable with
  | initial settings => exact .initial settings
  | loadRam _ address bytes ih => exact ih
  | setByte _ address value ih => exact ih
  | setWord _ address value ih => exact ih
  | readRegister _ offset ih => exact reachable_readRegister ih offset
  | writeRegister _ offset value ih => exact reachable_writeRegister ih offset value
  | writeDecoder _ write ih => exact ih.write write
  | reset _ ih => exact ih.reset
  | reload _ settings ih => exact ih.reload settings
  | tick _ render ih => exact reachable_tick ih render

end VideoUnit

end DualPlaneVideo
