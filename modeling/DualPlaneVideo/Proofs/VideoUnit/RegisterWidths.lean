import DualPlaneVideo.Proofs.Decoder.InterruptStatus
import DualPlaneVideo.Proofs.Decoder.RegisterWidths
import DualPlaneVideo.Proofs.VideoUnit.Tick

/-!
# Widths of the registers in a video unit

The read cursors of a unit stay in memory, though the bus writes them in two parts and programs load
them. This holds of the unit's registers and display areas as well, also where the decoder is operated
on its own, out of step with the unit.
-/

namespace DualPlaneVideo

variable {property : Decoder → Prop}

/-- What no operation ends but one that brings new settings. -/
theorem Decoder.KeptBesideReload.perform {decoder : Decoder} (hkept : KeptBesideReload property)
    (h : property decoder) {operation : Operation}
    (hreload : ∀ settings, operation = .reload settings → property (decoder.reload settings)) :
    property (decoder.perform operation) := by
  cases operation with
  | enterFrame memory => exact hkept.enterFrame decoder memory h
  | advanceLine memory sources => exact hkept.advanceLine decoder memory sources h
  | finishFrame =>
    rw [Decoder.perform]
    split
    · exact h
    · rename_i hfinish
      exact hkept.finishFrame _ _ hfinish h
  | write write => exact hkept.write decoder write h
  | readSystem offset => exact hkept.readSystem decoder offset h
  | reset => exact hkept.reset decoder h
  | reload settings => exact hreload settings rfl

namespace VideoUnit

/-- The states that a unit comes to if its decoder may be operated on its own as well, on any memory
and any sources and with settings of its own. -/
inductive Attainable : VideoUnit → Prop where
  | initial (settings : Settings) : Attainable (initial settings)
  | access {unit : VideoUnit} (h : Attainable unit) (access : Access) :
      Attainable (unit.access access)
  | operate {unit : VideoUnit} (h : Attainable unit) (operation : Decoder.Operation) :
      Attainable { unit with decoder := unit.decoder.perform operation }
  | reset {unit : VideoUnit} (h : Attainable unit) : Attainable unit.reset
  | tick {unit : VideoUnit} {ε : Type} (h : Attainable unit)
      (render : FinishedFrame → Except ε Unit) : Attainable (unit.tick render).unit

variable {unit : VideoUnit}

theorem Reachable.attainable (reachable : unit.Reachable) : unit.Attainable := by
  induction reachable using Reachable.access_induction with
  | initial settings => exact .initial settings
  | access _ one ih => exact ih.access one
  | reset _ ih => exact ih.reset
  | tick _ render ih => exact ih.tick render

theorem access_keeps (hkept : Decoder.KeptBesideReload property) (h : property unit.decoder)
    {access : Access}
    (hreload : ∀ settings, access = .reload settings → property (unit.decoder.reload settings)) :
    property (unit.access access).decoder := by
  cases access with
  | loadRam address bytes => exact h
  | setByte address value => exact h
  | setWord address value => exact h
  | readRegister offset => exact readRegister_keeps hkept h offset
  | writeRegister offset value => exact writeRegister_keeps hkept h offset value
  | writeDecoder write => exact hkept.write unit.decoder write h
  | reload settings => exact hreload settings rfl

theorem reachable_access (h : unit.decoder.Reachable) (access : Access) :
    (unit.access access).decoder.Reachable :=
  access_keeps Decoder.Reachable.keptBesideReload h fun settings _ ↦ h.reload settings

theorem Attainable.decoder (attainable : unit.Attainable) : unit.decoder.Reachable := by
  induction attainable with
  | initial settings => exact .initial settings
  | access _ one ih => exact reachable_access ih one
  | operate _ operation ih => exact ih.perform operation
  | reset _ ih => exact ih.reset
  | tick _ render ih => exact reachable_tick ih render

/-! ## Read cursors -/

variable {cursors : PerPlane Word} {cursor : Word}

/-- The lower half of a cursor is out of reach of its upper four bits. -/
theorem inRam_withLowBits (h : InRam cursor) (value : UInt16) : InRam (withLowBits cursor value) := by
  have hhigh : (cursor &&& 0xFFFF0000).toNat < 2 ^ 20 := by
    calc
      (cursor &&& 0xFFFF0000).toNat ≤ cursor.toNat := by
        rw [UInt32.toNat_and]
        exact Nat.and_le_left
      _ < 2 ^ 20 := h
  have hlow : value.toUInt32.toNat < 2 ^ 20 := by
    calc
      value.toUInt32.toNat = value.toNat := UInt16.toNat_toUInt32 value
      _ < 2 ^ 16 := value.toNat_lt
      _ < 2 ^ 20 := by decide
  rw [InRam, withLowBits, UInt32.toNat_or]
  exact Nat.or_lt_two_pow hhigh hlow

theorem inRam_reloadCursors (h : cursors.All InRam) {loaded : PerPlane (Option Word)}
    (hloaded : Decoder.CursorsInRam loaded) : (reloadCursors cursors loaded).All InRam := by
  intro plane
  rw [reloadCursors, PerPlane.get_ofFn]
  cases hplane : loaded.get plane with
  | none => exact h plane
  | some cursor => exact hloaded plane cursor hplane

theorem inRam_advanceCursors (cursors : PerPlane Word) (consumed : PerPlane Nat) :
    (advanceCursors cursors consumed).All InRam := by
  intro plane
  rw [advanceCursors, PerPlane.get_ofFn]
  exact inRam_wrapAddress _

theorem inRam_access (h : unit.readCursors.All InRam) (access : Access) :
    (unit.access access).readCursors.All InRam := by
  cases access with
  | writeRegister offset value =>
    rw [VideoUnit.access, writeRegister]
    split
    · exact h.set _ (inRam_withLowBits (h _) value)
    · dsimp only
      split
      · exact h.set _ (inRam_wrapAddress _)
      · exact h
  | readRegister offset =>
    rw [VideoUnit.access, readRegister]
    split <;> exact h
  | loadRam address bytes => exact h
  | setByte address value => exact h
  | setWord address value => exact h
  | writeDecoder write => exact h
  | reload settings => exact h

theorem inRam_enterFrame (h : unit.readCursors.All InRam) (hareas : unit.decoder.AreasInRam) :
    unit.enterFrame.unit.readCursors.All InRam := by
  unfold enterFrame
  split
  · dsimp only
    split
    · exact h
    · rename_i loaded hloaded
      exact inRam_reloadCursors h ((hareas.enterFrame unit.ram.memory).2 loaded hloaded)
  · exact h

theorem inRam_showLine (h : unit.readCursors.All InRam) (hareas : unit.decoder.AreasInRam) :
    unit.showLine.unit.readCursors.All InRam := by
  unfold showLine
  split
  · dsimp only
    split
    · exact h
    · rename_i report hreport
      exact inRam_reloadCursors (inRam_advanceCursors _ _)
        ((hareas.advanceLine unit.ram.memory unit.sources).2 report hreport)
  · exact h

theorem readCursors_leaveLine {ε : Type} (unit : VideoUnit) (raised : List UInt8)
    (render : FinishedFrame → Except ε Unit) :
    (unit.leaveLine raised render).unit.readCursors = unit.readCursors := by
  unfold leaveLine
  dsimp only
  split
  · rfl
  · split <;> rfl

theorem inRam_tick {ε : Type} (h : unit.readCursors.All InRam) (hdecoder : unit.decoder.Reachable)
    (render : FinishedFrame → Except ε Unit) : (unit.tick render).unit.readCursors.All InRam := by
  have hentered := inRam_enterFrame h hdecoder.areasInRam
  have hshown := inRam_showLine hentered (reachable_enterFrame hdecoder).areasInRam
  have hcourse := course unit render
  generalize unit.tick render = tick at hcourse ⊢
  cases hcourse with
  | notEntered hfailure => exact hentered
  | notShown _ hfailure => exact hshown
  | left _ _ =>
    rw [readCursors_leaveLine]
    exact hshown

theorem Attainable.readCursors (attainable : unit.Attainable) : unit.readCursors.All InRam := by
  have hzero : (PerPlane.both (0 : Word)).All InRam := by
    intro plane
    rw [PerPlane.get_both]
    decide
  induction attainable with
  | initial settings => exact hzero
  | access _ one ih => exact inRam_access ih one
  | operate _ operation ih => exact ih
  | reset _ ih => exact hzero
  | tick h render ih => exact inRam_tick ih h.decoder render

/-- In every state of a decoder, and of a unit around it, each register keeps to its width, and the
display areas and the read cursors are in memory. -/
theorem registers_keep_to_their_widths :
    (∀ decoder : Decoder, decoder.Reachable →
      decoder.registers.FitsWidths ∧ decoder.AreasInRam) ∧
    ∀ unit : VideoUnit, unit.Attainable →
      unit.decoder.registers.FitsWidths ∧ unit.decoder.AreasInRam ∧
        unit.readCursors.All InRam := by
  have hdecoder (decoder : Decoder) (reachable : decoder.Reachable) :
      decoder.registers.FitsWidths ∧ decoder.AreasInRam :=
    ⟨reachable.registers RegisterFile.FitsWidths.lasting, reachable.areasInRam⟩
  refine ⟨hdecoder, ?_⟩
  intro unit attainable
  obtain ⟨hwidths, hareas⟩ := hdecoder unit.decoder attainable.decoder
  exact ⟨hwidths, hareas, attainable.readCursors⟩

/-- A unit whose bus has written all bits of some registers and of a read cursor. -/
def withAllBits : VideoUnit :=
  [.writeDecoder (.register 0xC3 0xFFFFFFFF), .writeDecoder (.register 0xDB 0xFFFFFFFF),
    .writeRegister 0x12 0x830F, .writeRegister 0x14 0xFFFF].foldl VideoUnit.access (initial default)

/-- The decoder starts a frame by itself, on a memory of ones, which are loads of no register. -/
theorem registers_keep_to_their_widths_with_all_bits :
    withAllBits.readCursors.a = 0xFFFFF ∧ withAllBits.decoder.registers.paletteBank = 3 ∧
      withAllBits.decoder.registers.contributionFactor.a = 63 ∧
      let operated : VideoUnit :=
        { withAllBits with decoder := withAllBits.decoder.perform (.enterFrame fun _ ↦ 0xFF) }
      operated.decoder.registers.FitsWidths ∧ operated.decoder.AreasInRam ∧
        operated.readCursors.All InRam := by
  have hattainable : withAllBits.Attainable :=
    ((Reachable.initial default).foldl_access _).attainable
  refine ⟨by decide +kernel, by decide +kernel, by decide +kernel, ?_⟩
  exact registers_keep_to_their_widths.2 _ (hattainable.operate (.enterFrame fun _ ↦ 0xFF))

end VideoUnit

end DualPlaneVideo
