import DualPlaneVideo.Proofs.VideoUnit.RegisterWidths

/-!
# The strict policy

Under the strict policy the image coding register never holds a combination of coding methods that
is not allowed. All of its changes go through one load, which a control program of channel A and the
bus share: the load takes an allowed value, and leaves the registers as they are for any other.
-/

namespace DualPlaneVideo

namespace RegisterFile

variable {registers : RegisterFile} {value : Word}

/-- What becomes of the registers when a value is written to the image coding register: an allowed
one is taken, and any other is rejected. -/
structure TakesIfAllowed (registers after : RegisterFile) (value : Word) : Prop where
  taken : ImageCoding.Allowed value → after = { registers with imageCoding := value }
  rejected : ¬ ImageCoding.Allowed value → after = registers

/-- The image coding register belongs to channel A. -/
theorem takesIfAllowed_load (registers : RegisterFile) (value : Word) :
    TakesIfAllowed registers (registers.load .a 0xC0 value .strict) value :=
  ⟨setImageCoding_of_allowed, setImageCoding_of_not_allowed⟩

theorem load_imageCoding_b (registers : RegisterFile) (value : Word) (policy : CodingPolicy) :
    registers.load .b 0xC0 value policy = registers := rfl

/-- The combination in the image coding register is allowed. -/
def HoldsAllowed (registers : RegisterFile) : Prop :=
  ImageCoding.Allowed registers.imageCoding

theorem HoldsAllowed.load (h : registers.HoldsAllowed) (channel : Plane) (opcode : UInt8)
    (value : Word) : (registers.load channel opcode value .strict).HoldsAllowed := by
  unfold RegisterFile.load
  split
  · exact h
  · rename_i register _
    split
    · by_cases hregister : register = .imageCoding
      · subst hregister
        change (registers.setImageCoding value .strict).HoldsAllowed
        by_cases hallowed : ImageCoding.Allowed value
        · rw [setImageCoding_of_allowed hallowed]
          exact hallowed
        · rwa [setImageCoding_of_not_allowed hallowed]
      · rwa [HoldsAllowed, imageCoding_store_of_ne hregister]
    · exact h

theorem HoldsAllowed.keptBy (channel : Plane) : KeptBy channel .strict HoldsAllowed where
  load _ opcode value _ h := h.load channel opcode value
  parameters _ _ _ _ h := h
  interrupt _ h := h

end RegisterFile

namespace Decoder

variable {decoder : Decoder}

/-- The decoder's policy is the strict one, and its registers keep to it. -/
structure KeepsToStrict (decoder : Decoder) : Prop where
  policy : decoder.settings.policy = .strict
  allowed : decoder.registers.HoldsAllowed

theorem KeepsToStrict.write (h : decoder.KeepsToStrict) (write : BusWrite) :
    (decoder.write write).KeepsToStrict := by
  cases write with
  | register opcode value =>
    refine ⟨h.policy, ?_⟩
    rw [Decoder.write, writeRegister, h.policy]
    exact h.allowed.load (busChannel opcode) opcode value.low24
  | paletteEntry index value => exact ⟨h.policy, h.allowed⟩
  | matteCommand index value => exact ⟨h.policy, h.allowed⟩
  | cursorRow row pattern => exact ⟨h.policy, h.allowed⟩
  | system offset value =>
    rw [Decoder.write, writeSystem]
    split
    · exact ⟨h.policy, h.allowed⟩
    · exact h

theorem KeepsToStrict.readSystem (h : decoder.KeepsToStrict) (offset : Word) :
    (decoder.readSystem offset).2.KeepsToStrict := by
  unfold Decoder.readSystem
  dsimp only
  split
  · exact h
  · exact ⟨h.policy, h.allowed⟩
  · exact h
  · exact h
  · exact h

/-- Whatever the programs of both channels load. -/
theorem KeepsToStrict.keptBy (h : decoder.KeepsToStrict) (channel : Plane) :
    RegisterFile.KeptBy channel decoder.settings.policy RegisterFile.HoldsAllowed := by
  rw [h.policy]
  exact RegisterFile.HoldsAllowed.keptBy channel

theorem KeepsToStrict.enterFrame (h : decoder.KeepsToStrict) (memory : Memory) :
    (decoder.enterFrame memory).decoder.KeepsToStrict := by
  refine ⟨by rw [enterFrame_settings, h.policy], ?_⟩
  rw [enterFrame_registers]
  exact Schedule.runChannels_keeps
    (fun _ channel _ hturn ↦ Schedule.runInitial_keeps (h.keptBy channel) hturn) h.allowed

theorem KeepsToStrict.advanceLine (h : decoder.KeepsToStrict) (memory : Memory)
    (sources : PerPlane (List UInt8)) :
    (decoder.advanceLine memory sources).decoder.KeepsToStrict := by
  have hshown : (decoder.showLine sources).1.KeepsToStrict := by
    obtain ⟨factors, planeLines, frame, backdrop, hline⟩ := showLine_fst decoder sources
    rw [hline]
    exact ⟨h.policy, h.allowed⟩
  refine ⟨by rw [advanceLine_settings, h.policy], ?_⟩
  rcases advanceLine_registers decoder memory sources with hafter | hafter
  · rw [hafter]
    exact hshown.allowed
  · rw [hafter]
    exact Schedule.runChannels_keeps
      (fun _ channel _ hturn ↦ Schedule.runDisplay_keeps (hshown.keptBy channel) hturn)
      hshown.allowed

theorem KeepsToStrict.reset (h : decoder.KeepsToStrict) : decoder.reset.KeepsToStrict :=
  ⟨h.policy, (by decide : ImageCoding.Allowed 0)⟩

theorem KeepsToStrict.keptBesideReload : KeptBesideReload KeepsToStrict where
  write _ write h := h.write write
  readSystem _ offset h := h.readSystem offset
  reset _ h := h.reset
  enterFrame _ memory h := h.enterFrame memory
  advanceLine _ memory sources h := h.advanceLine memory sources
  finishFrame _ _ hfinish h := by
    obtain ⟨frame, -, rfl⟩ := except_map_eq_ok_iff.mp hfinish
    exact ⟨h.policy, h.allowed⟩

/-- The operation brings no settings but strict ones. -/
def Operation.IsStrict : Operation → Prop
  | .reload settings => settings.policy = .strict
  | _ => True

/-- The decoders that come from settings with the strict policy and have never had others. -/
inductive StrictlyReachable : Decoder → Prop where
  | initial {settings : Settings} (h : settings.policy = .strict) :
      StrictlyReachable (initial settings)
  | perform {decoder : Decoder} (h : StrictlyReachable decoder) (operation : Operation)
      (hoperation : operation.IsStrict) : StrictlyReachable (decoder.perform operation)

theorem KeepsToStrict.perform (h : decoder.KeepsToStrict) {operation : Operation}
    (hoperation : operation.IsStrict) : (decoder.perform operation).KeepsToStrict := by
  apply keptBesideReload.perform h
  rintro settings rfl
  exact ⟨hoperation, h.allowed⟩

theorem KeepsToStrict.initial {settings : Settings} (h : settings.policy = .strict) :
    (Decoder.initial settings).KeepsToStrict :=
  ⟨h, (by decide : ImageCoding.Allowed 0)⟩

theorem StrictlyReachable.keepsToStrict (reachable : decoder.StrictlyReachable) :
    decoder.KeepsToStrict := by
  induction reachable with
  | initial h => exact .initial h
  | perform _ operation hoperation ih => exact ih.perform hoperation

end Decoder

namespace VideoUnit

variable {unit : VideoUnit}

/-- The access brings no settings but strict ones. -/
def Access.IsStrict : Access → Prop
  | .reload settings => settings.policy = .strict
  | _ => True

/-- The units that come from settings with the strict policy and have never had others. Their
decoders may be operated on their own as well. -/
inductive StrictlyReachable : VideoUnit → Prop where
  | initial {settings : Settings} (h : settings.policy = .strict) :
      StrictlyReachable (initial settings)
  | access {unit : VideoUnit} (h : StrictlyReachable unit) (access : Access)
      (haccess : access.IsStrict) : StrictlyReachable (unit.access access)
  | operate {unit : VideoUnit} (h : StrictlyReachable unit) (operation : Decoder.Operation)
      (hoperation : operation.IsStrict) :
      StrictlyReachable { unit with decoder := unit.decoder.perform operation }
  | reset {unit : VideoUnit} (h : StrictlyReachable unit) : StrictlyReachable unit.reset
  | tick {unit : VideoUnit} {ε : Type} (h : StrictlyReachable unit)
      (render : FinishedFrame → Except ε Unit) : StrictlyReachable (unit.tick render).unit

theorem keepsToStrict_access (h : unit.decoder.KeepsToStrict) {access : Access}
    (haccess : access.IsStrict) : (unit.access access).decoder.KeepsToStrict := by
  apply access_keeps Decoder.KeepsToStrict.keptBesideReload h
  rintro settings rfl
  exact ⟨haccess, h.allowed⟩

theorem StrictlyReachable.keepsToStrict (reachable : unit.StrictlyReachable) :
    unit.decoder.KeepsToStrict := by
  induction reachable with
  | initial h => exact .initial h
  | access _ access haccess ih => exact keepsToStrict_access ih haccess
  | operate _ operation hoperation ih => exact ih.perform hoperation
  | reset _ ih => exact ih.reset
  | tick _ render ih => exact tick_keeps Decoder.KeepsToStrict.keptBesideReload ih render

/-- Under the strict policy the image coding register of a decoder, and of a unit around it, always
holds an allowed combination. A write to it from the bus or from a program of channel A takes effect
if its combination is allowed, and any other write to it leaves all registers as they are. -/
theorem strict_policy_is_invariant :
    (∀ decoder : Decoder, decoder.StrictlyReachable →
      decoder.settings.policy = .strict ∧
      ImageCoding.Allowed decoder.registers.imageCoding ∧
      ∀ value, RegisterFile.TakesIfAllowed decoder.registers
        (decoder.write (.register 0xC0 value)).registers value.low24) ∧
    (∀ unit : VideoUnit, unit.StrictlyReachable →
      unit.decoder.settings.policy = .strict ∧
      ImageCoding.Allowed unit.decoder.registers.imageCoding ∧
      ∀ value, RegisterFile.TakesIfAllowed unit.decoder.registers
        (unit.access (.writeDecoder (.register 0xC0 value))).decoder.registers value.low24) ∧
    ∀ (run : ProgramRun) (next operand : Word),
      RegisterFile.TakesIfAllowed run.registers
        (run.execute .a .strict next (.loadRegister 0xC0 operand)).1.registers operand ∧
      (run.execute .b .strict next (.loadRegister 0xC0 operand)).1.registers = run.registers := by
  have hdecoder (decoder : Decoder) (h : decoder.KeepsToStrict) :
      decoder.settings.policy = .strict ∧ ImageCoding.Allowed decoder.registers.imageCoding ∧
        ∀ value, RegisterFile.TakesIfAllowed decoder.registers
          (decoder.write (.register 0xC0 value)).registers value.low24 := by
    refine ⟨h.policy, h.allowed, fun value ↦ ?_⟩
    rw [Decoder.write, Decoder.writeRegister, h.policy]
    exact RegisterFile.takesIfAllowed_load decoder.registers value.low24
  refine ⟨fun decoder reachable ↦ hdecoder decoder reachable.keepsToStrict,
    fun unit reachable ↦ hdecoder unit.decoder reachable.keepsToStrict, ?_⟩
  intro run next operand
  exact ⟨RegisterFile.takesIfAllowed_load run.registers operand,
    RegisterFile.load_imageCoding_b run.registers operand .strict⟩

/-- The initial program of channel A turns on direct color on plane B while plane A has CLUT7. -/
def directColorBesidePalette : Memory := fun address ↦
  match address.toNat with
  | 0x400 => 0xC0
  | 0x402 => 0x01
  | 0x403 => 0x03
  | _ => 0

/-- A unit with the strict policy, CLUT7 on plane A and the initial area of channel A enabled. -/
def strictUnit : VideoUnit :=
  [.writeDecoder (.register 0xC0 0x003), .writeRegister 0x12 0x0200].foldl VideoUnit.access
    (initial { Settings.standard with policy := .strict })

theorem strictlyReachable_strictUnit : strictUnit.StrictlyReachable := by
  have hinitial : (initial { Settings.standard with policy := .strict }).StrictlyReachable :=
    .initial rfl
  exact (hinitial.access (.writeDecoder (.register 0xC0 0x003)) trivial).access
    (.writeRegister 0x12 0x0200) trivial

/-- The program's write and one from the bus are rejected, and one with plane A off is taken. -/
theorem strict_policy_is_invariant_direct_color :
    let started : VideoUnit := { strictUnit with
      decoder := strictUnit.decoder.perform (.enterFrame directColorBesidePalette) }
    started.decoder.registers.imageCoding = 0x003 ∧
      ImageCoding.Allowed started.decoder.registers.imageCoding ∧
      (started.access (.writeDecoder (.register 0xC0 0x103))).decoder.registers =
        started.decoder.registers ∧
      (started.access (.writeDecoder (.register 0xC0 0x100))).decoder.registers.imageCoding =
        0x100 := by
  intro started
  obtain ⟨-, hunit, -⟩ := strict_policy_is_invariant
  obtain ⟨-, hallowed, hwrite⟩ := hunit started
    (strictlyReachable_strictUnit.operate (.enterFrame directColorBesidePalette) trivial)
  refine ⟨by decide +kernel, hallowed, (hwrite 0x103).rejected (by decide), ?_⟩
  rw [(hwrite 0x100).taken (by decide)]
  rfl

end VideoUnit

end DualPlaneVideo
