import DualPlaneVideo.Decoder.Bus
import DualPlaneVideo.Proofs.Decoder.PictureSize

/-!
# Reachable decoders

The states that a decoder comes to from its initial one, by bus accesses, resets, changes of the
settings and steps of a frame, whether these fail or not. In all of them the pictures fit the
format.
-/

namespace DualPlaneVideo

inductive BusWrite where
  | register (opcode : UInt8) (value : Word)
  | paletteEntry (index : Nat) (value : Word)
  | matteCommand (index : Nat) (value : Word)
  | cursorRow (row : Nat) (pattern : UInt16)
  | system (offset : Word) (value : UInt16)

namespace Decoder

def write (decoder : Decoder) : BusWrite → Decoder
  | .register opcode value => decoder.writeRegister opcode value
  | .paletteEntry index value => decoder.setPaletteEntry index value
  | .matteCommand index value => decoder.setMatteCommand index value
  | .cursorRow row pattern => decoder.setCursorRow row pattern
  | .system offset value => decoder.writeSystem offset value

inductive Reachable : Decoder → Prop where
  | initial (settings : Settings) : Reachable (initial settings)
  | write {decoder : Decoder} (h : Reachable decoder) (write : BusWrite) :
      Reachable (decoder.write write)
  | readSystem {decoder : Decoder} (h : Reachable decoder) (offset : Word) :
      Reachable (decoder.readSystem offset).2
  | reset {decoder : Decoder} (h : Reachable decoder) : Reachable decoder.reset
  | reload {decoder : Decoder} (h : Reachable decoder) (settings : Settings) :
      Reachable (decoder.reload settings)
  | enterFrame {decoder : Decoder} (h : Reachable decoder) (memory : Memory) :
      Reachable (decoder.enterFrame memory).decoder
  | advanceLine {decoder : Decoder} (h : Reachable decoder) (memory : Memory)
      (sources : PerPlane (List UInt8)) : Reachable (decoder.advanceLine memory sources).decoder
  | finishFrame {decoder after : Decoder} (h : Reachable decoder)
      (hfinish : decoder.finishFrame = .ok after) : Reachable after

variable {decoder : Decoder}

/-- A write concerns registers and no picture. -/
theorem FitsFormat.write (h : decoder.FitsFormat) (write : BusWrite) :
    (decoder.write write).FitsFormat := by
  cases write with
  | register opcode value => exact h.congr rfl rfl rfl rfl
  | paletteEntry index value => exact h.congr rfl rfl rfl rfl
  | matteCommand index value => exact h.congr rfl rfl rfl rfl
  | cursorRow row pattern => exact h.congr rfl rfl rfl rfl
  | system offset value =>
    rw [Decoder.write, writeSystem]
    split
    · exact h.congr rfl rfl rfl rfl
    · exact h

theorem FitsFormat.readSystem (h : decoder.FitsFormat) (offset : Word) :
    (decoder.readSystem offset).2.FitsFormat := by
  unfold Decoder.readSystem
  dsimp only
  split
  · exact h
  · exact h.congr rfl rfl rfl rfl
  · exact h
  · exact h
  · exact h

theorem Reachable.fitsFormat (reachable : decoder.Reachable) : decoder.FitsFormat := by
  induction reachable with
  | initial settings => exact fitsFormat_initial settings
  | write _ write ih => exact ih.write write
  | readSystem _ offset ih => exact ih.readSystem offset
  | reset _ ih => exact ih.reset
  | reload _ settings ih => exact ih.congr rfl rfl rfl rfl
  | enterFrame _ memory ih => exact fitsFormat_enterFrame _ memory
  | advanceLine _ memory sources ih => exact ih.advanceLine memory sources
  | finishFrame _ hfinish ih => exact ih.finishFrame hfinish

end Decoder

end DualPlaneVideo
