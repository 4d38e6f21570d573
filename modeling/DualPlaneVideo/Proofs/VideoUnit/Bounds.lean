import DualPlaneVideo.Proofs.VideoRam
import DualPlaneVideo.Proofs.VideoUnit.Reachable

/-!
# Staying in bounds

The window of memory that a tick gives to each plane is long enough for every coding, kind of image
and resolution, and every row and line buffer has the size that the format asks for. So whatever is
in memory and in the registers, no tick runs out of bounds.
-/

namespace DualPlaneVideo

namespace VideoUnit

variable {unit : VideoUnit} {failure : Failure}

theorem length_sources (unit : VideoUnit) (plane : Plane) :
    (unit.sources.get plane).length = windowLength unit.decoder.format := by
  rw [sources, PerPlane.get_map, Array.length_toList, VideoRam.size_readBlock]

theorem enterFrame_failure (herror : unit.enterFrame.failure? = some failure) :
    failure.isOutOfBounds = false := by
  unfold enterFrame at herror
  split at herror
  · dsimp only at herror
    split at herror
    · rename_i hresult
      cases herror
      exact Decoder.enterFrame_error hresult
    · cases herror
  · cases herror

theorem showLine_failure (hfit : unit.decoder.FitsFormat)
    (herror : unit.showLine.failure? = some failure) : failure.isOutOfBounds = false := by
  have hlong (plane : Plane) :
      2 * unit.decoder.format.planeWidth ≤ (unit.sources.get plane).length := by
    rw [length_sources, windowLength]
    omega
  unfold showLine at herror
  split at herror
  · dsimp only at herror
    split at herror
    · rename_i hresult
      cases herror
      exact hfit.advanceLine_error hlong hresult
    · cases herror
  · cases herror

theorem leaveLine_failure {ε : Type} {raised : List UInt8}
    {render : FinishedFrame → Except ε Unit}
    (herror : (unit.leaveLine raised render).result = .error (.decoder failure)) :
    failure.isOutOfBounds = false := by
  unfold leaveLine at herror
  dsimp only at herror
  split at herror
  · cases herror
  · split at herror
    · rename_i hresult
      cases herror
      exact Decoder.finishFrame_error hresult
    · dsimp only at herror
      split at herror <;> cases herror

/-- A tick fails where its first failing phase does. -/
theorem tick_failure {ε : Type} {render : FinishedFrame → Except ε Unit}
    (h : unit.decoder.Reachable)
    (herror : (unit.tick render).result = .error (.decoder failure)) :
    failure.isOutOfBounds = false := by
  have hentered := reachable_enterFrame h
  unfold tick at herror
  dsimp only at herror
  split at herror
  · rename_i hfailure
    cases herror
    exact enterFrame_failure hfailure
  · split at herror
    · rename_i hfailure
      cases herror
      exact showLine_failure hentered.fitsFormat hfailure
    · exact leaveLine_failure herror

/-- No tick of a reachable unit reads or writes out of bounds, whatever its memory holds, nor does
any line of a decoder whose sources have two bytes for each pixel of a plane line. A run-length line
indeed takes at most two bytes for each pixel it decodes, and the walks of the matte stay in the
command table. -/
theorem tick_stays_in_bounds :
    (∀ unit : VideoUnit, unit.Reachable →
      ∀ (ram : VideoRam) (ε : Type) (render : FinishedFrame → Except ε Unit) (failure : Failure),
        (tick { unit with ram } render).result = .error (.decoder failure) →
          failure.isOutOfBounds = false) ∧
    (∀ decoder : Decoder, decoder.Reachable →
      ∀ (memory : Memory) (sources : PerPlane (List UInt8)) (failure : Failure),
        (∀ plane, 2 * decoder.format.planeWidth ≤ (sources.get plane).length) →
        (decoder.advanceLine memory sources).result = .error failure →
          failure.isOutOfBounds = false) ∧
    (∀ (palette : Palette) (view : PaletteView) (form : RunForm) (width : Nat)
      (source : List UInt8), 2 * width ≤ source.length →
        ∃ line, decodeRunLength palette view form width source = .ok line ∧
          line.consumed ≤ 2 * width) ∧
    ∀ (registers : RegisterFile) (count : Nat),
      ((Decoder.startMatte registers).run registers.matteCommands count).InTable := by
  refine ⟨?_, ?_, ?_, ?_⟩
  · intro unit reachable ram ε render failure herror
    have hdecoder : Decoder.Reachable { unit with ram }.decoder := reachable.decoder
    exact tick_failure hdecoder herror
  · intro decoder reachable memory sources failure hlong herror
    exact reachable.fitsFormat.advanceLine_error hlong herror
  · intro palette view form width source hlong
    have hexact := readsExactly_decodeRunLength palette view form width
    obtain ⟨line, hline⟩ := hexact.isOk hlong
    exact ⟨line, hline, hexact.count_le_bound hline⟩
  · intro registers count
    exact (MatteState.inTable_atLineStart _ _ _).run count

/-- A line of runs with two bytes for each pixel, and a unit whose first tick has failed. -/
theorem tick_stays_in_bounds_after_reserved_depth :
    (∃ line, decodeRunLength .zeroed .lowerHalf .single 2 [0x81, 1, 0x82, 1] = .ok line ∧
      line.consumed ≤ 2 * 2) ∧
    let started := (initial default).writeRegister 0x12 0x8300
    let failed := ({ started with ram := started.ram.load 0x400 [0x70, 0, 3, 0] }.tick
      fun _ ↦ (.ok () : Except Unit Unit)).unit
    ∀ failure, (failed.tick fun _ ↦ (.ok () : Except Unit Unit)).result =
      .error (.decoder failure) → failure.isOutOfBounds = false := by
  obtain ⟨htick, -, hruns, -⟩ := tick_stays_in_bounds
  refine ⟨hruns .zeroed .lowerHalf .single 2 _ (by decide), ?_⟩
  intro started failed failure herror
  have hstarted : started.Reachable := (Reachable.initial default).writeRegister 0x12 0x8300
  have hfailed : failed.Reachable := (hstarted.loadRam 0x400 [0x70, 0, 3, 0]).tick _
  exact htick failed hfailed failed.ram Unit _ failure herror

end VideoUnit

end DualPlaneVideo
