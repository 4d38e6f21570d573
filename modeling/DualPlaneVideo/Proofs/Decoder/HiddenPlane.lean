import DualPlaneVideo.Proofs.Compositing
import DualPlaneVideo.Proofs.Decoder.ShownLine
import DualPlaneVideo.Proofs.Word

/-!
# Planes without an image of their own

A plane that is off, and plane A beside direct color, is transparent along the whole line. Nothing
that the registers hold for such a plane comes through to the picture, in whatever order the planes
are layered, and its source is not read, unless direct color needs it for plane B.
-/

namespace DualPlaneVideo

namespace RegisterFile

variable {registers other : RegisterFile} {plane : Plane}

/-- The plane is off, or it is plane A beside direct color. -/
def Hides (registers : RegisterFile) (plane : Plane) : Prop :=
  registers.codingMethod plane = .off ∨ plane = .a ∧ registers.codingMethod .b = .rgb555

/-- Two register files that may differ in what they hold for one plane, and in the order of the
planes. That is the plane's transparency condition, its transparent and its mask color, its seed, its
contribution factor and its display parameters with pixel hold; beside direct color also the coding
method of plane A. Registers that no line depends on may differ as well. -/
structure AgreesBeside (plane : Plane) (registers other : RegisterFile) : Prop where
  imageCoding : ∀ index, (index < 4 → ¬ (plane = .a ∧ registers.codingMethod .b = .rgb555)) →
    other.imageCoding.bit index = registers.imageCoding.bit index
  transparency : ∀ index, index < TransparencyControl.conditionOffset plane ∨
      TransparencyControl.conditionOffset plane + 4 ≤ index →
    other.transparency.bit index = registers.transparency.bit index
  transparentColor :
    other.transparentColor.get plane.other = registers.transparentColor.get plane.other
  maskColor : other.maskColor.get plane.other = registers.maskColor.get plane.other
  yuvSeed : other.yuvSeed.get plane.other = registers.yuvSeed.get plane.other
  contributionFactor :
    other.contributionFactor.get plane.other = registers.contributionFactor.get plane.other
  parameters : other.parameters.get plane.other = registers.parameters.get plane.other
  matteCommands : other.matteCommands = registers.matteCommands
  backdrop : other.backdrop = registers.backdrop
  palette : other.palette = registers.palette
  displayEnabled : other.system.displayEnabled = registers.system.displayEnabled

/-- Direct color takes plane A's image away, so plane B is not the hidden one. -/
theorem Hides.eq_a (h : registers.Hides plane) (hdirect : registers.codingMethod .b = .rgb555) :
    plane = .a := by
  rcases h with hoff | ⟨ha, -⟩
  · cases plane with
    | a => rfl
    | b =>
      rw [hdirect] at hoff
      cases hoff
  · exact ha

theorem Hides.eq_off (h : registers.Hides plane) (hdirect : registers.codingMethod .b ≠ .rgb555) :
    registers.codingMethod plane = .off := by
  rcases h with hoff | ⟨-, hb⟩
  · exact hoff
  · exact absurd hb hdirect

namespace AgreesBeside

variable (h : AgreesBeside plane registers other)
include h

/-- Outside direct color the whole coding register is the same. -/
theorem imageCoding_eq (hdirect : registers.codingMethod .b ≠ .rgb555) :
    other.imageCoding = registers.imageCoding := by
  apply Word.ext_bit
  intro index
  exact h.imageCoding index fun _ hb ↦ hdirect hb.2

theorem codingMethod_b : other.codingMethod .b = registers.codingMethod .b := by
  have hfield : other.imageCoding.field 8 4 = registers.imageCoding.field 8 4 := by
    apply Word.field_congr
    intro index _
    exact h.imageCoding (8 + index) fun hlow ↦ by omega
  exact congrArg ImageCoding.methodOfCodeB hfield

theorem codingMethod_eq (hdirect : registers.codingMethod .b ≠ .rgb555) (side : Plane) :
    other.codingMethod side = registers.codingMethod side := by
  rw [codingMethod, codingMethod, h.imageCoding_eq hdirect]

theorem hides (hhides : registers.Hides plane) : other.Hides plane := by
  by_cases hdirect : registers.codingMethod .b = .rgb555
  · exact .inr ⟨hhides.eq_a hdirect, h.codingMethod_b.trans hdirect⟩
  · exact .inl ((h.codingMethod_eq hdirect plane).trans (hhides.eq_off hdirect))

theorem twoMattes : ImageCoding.twoMattes other.imageCoding =
    ImageCoding.twoMattes registers.imageCoding :=
  h.imageCoding 19 fun hlow ↦ absurd hlow (by decide)

theorem mixes : TransparencyControl.mixes other.transparency =
    TransparencyControl.mixes registers.transparency := by
  apply h.transparency
  cases plane <;> decide

/-- The conditions of the two planes have no bit in common. -/
theorem condition_other : TransparencyControl.condition other.transparency plane.other =
    TransparencyControl.condition registers.transparency plane.other := by
  have hbit {index : Nat} (hindex : index < 4) :
      other.transparency.bit (TransparencyControl.conditionOffset plane.other + index) =
        registers.transparency.bit (TransparencyControl.conditionOffset plane.other + index) := by
    apply h.transparency
    cases plane with
    | a => exact .inr (Nat.le_trans (by decide) (Nat.le_add_right 8 index))
    | b => exact .inl (by simpa [TransparencyControl.conditionOffset, Plane.other] using by omega)
  have hfield : other.transparency.field (TransparencyControl.conditionOffset plane.other) 3 =
      registers.transparency.field (TransparencyControl.conditionOffset plane.other) 3 :=
    Word.field_congr fun index hindex ↦ hbit (Nat.lt_trans hindex (by decide))
  rw [TransparencyControl.condition, TransparencyControl.condition, hfield, hbit (by decide)]

end AgreesBeside

end RegisterFile

/-! ## Decoding -/

section Lines

variable {registers other : RegisterFile} {plane : Plane} {sources others : PerPlane (List UInt8)}

/-- Two pairs of sources that may differ in the source of one plane, unless direct color reads it. -/
structure SourcesAgree (plane : Plane) (registers : RegisterFile)
    (sources others : PerPlane (List UInt8)) : Prop where
  other : others.get plane.other = sources.get plane.other
  direct : registers.codingMethod .b = .rgb555 → others.get plane = sources.get plane

theorem SourcesAgree.get (h : SourcesAgree plane registers sources others)
    (hdirect : registers.codingMethod .b = .rgb555) (side : Plane) :
    others.get side = sources.get side := by
  by_cases hside : side = plane
  · rw [hside, h.direct hdirect]
  · rw [Plane.eq_other_of_ne hside, h.other]

/-- The lines of both planes come out the same. -/
theorem PlaneLine.decode_of_agreesBeside (h : registers.AgreesBeside plane other)
    (hhides : registers.Hides plane) (hsources : SourcesAgree plane registers sources others)
    (side : Plane) (baseWidth : Nat) :
    decode other side baseWidth others = decode registers side baseWidth sources := by
  by_cases hdirect : registers.codingMethod .b = .rgb555
  · -- Plane A is the hidden one, and direct color looks at the parameters of plane B only.
    have hplane := hhides.eq_a hdirect
    subst hplane
    have hparameters : other.parameters.b = registers.parameters.b := h.parameters
    have ha : others.a = sources.a := hsources.get hdirect .a
    have hb : others.b = sources.b := hsources.get hdirect .b
    rw [decode_direct (h.codingMethod_b.trans hdirect), decode_direct hdirect]
    rw [decodeCombined, decodeCombined, hparameters, ha, hb]
  · have hotherDirect : other.codingMethod .b ≠ .rgb555 := by
      rwa [h.codingMethod_eq hdirect]
    by_cases hoff : registers.codingMethod side = .off
    · have hotherOff := (h.codingMethod_eq hdirect side).trans hoff
      rw [decode_off hotherDirect hotherOff, decode_off hdirect hoff]
    · have hotherOff : other.codingMethod side ≠ .off := by
        rwa [h.codingMethod_eq hdirect]
      have hside : side = plane.other := by
        apply Plane.eq_other_of_ne
        rintro rfl
        exact hoff (hhides.eq_off hdirect)
      subst hside
      have hown : decodeOwn other plane.other baseWidth (sources.get plane.other) =
          decodeOwn registers plane.other baseWidth (sources.get plane.other) := by
        rw [decodeOwn, decodeOwn, h.codingMethod_eq hdirect, h.imageCoding_eq hdirect,
          h.parameters, h.palette, h.yuvSeed]
      rw [decode_own hotherDirect hotherOff, decode_own hdirect hoff, hsources.other, hown,
        h.parameters]

/-- A hidden plane decodes to transparent pixels. -/
theorem PlaneLine.pixels_of_hides {baseWidth : Nat} {line : PlaneLine}
    (hhides : registers.Hides plane)
    (hline : decode registers plane baseWidth sources = .ok line) :
    line.pixels = Array.replicate (2 * baseWidth) Color.transparent := by
  by_cases hdirect : registers.codingMethod .b = .rgb555
  · have hplane := hhides.eq_a hdirect
    subst hplane
    rw [decode_direct hdirect] at hline
    obtain ⟨decoded, -, rfl⟩ := except_map_eq_ok_iff.mp hline
    rfl
  · rw [decode_off hdirect (hhides.eq_off hdirect)] at hline
    cases hline
    rfl

end Lines

/-! ## Scanning -/

section Scanning

variable {registers other : RegisterFile} {plane : Plane} {lines : PerPlane (Array Color)}
  {matte otherMatte : MatteState}

theorem agreesBeside_startMatte (h : registers.AgreesBeside plane other) :
    MatteState.AgreesBeside plane (Decoder.startMatte registers) (Decoder.startMatte other) where
  walks := by
    have hwalk : MatteState.firstWalk other.imageCoding other.matteCommands =
        MatteState.firstWalk registers.imageCoding registers.matteCommands := by
      funext side
      unfold MatteState.firstWalk
      rw [h.twoMattes, h.matteCommands]
    exact congrArg PerPlane.ofFn hwalk
  factor := h.contributionFactor

namespace LineView

/-- A hidden plane's pixels are shown as they are. -/
theorem resolved_of_hides (hhides : registers.Hides plane) (matte : MatteState) (pixel : Color) :
    (ofRegisters registers).resolved matte plane pixel = pixel := by
  have hrule : (ofRegisters registers).rules.get plane = none := by
    rw [ofRegisters, PerPlane.get_ofFn, rule?, Decoder.showsImage_eq_false_iff.mpr hhides]
    rfl
  rw [resolved, hrule]

theorem showsImage_other (h : registers.AgreesBeside plane other) (hhides : registers.Hides plane) :
    showsImage other plane.other = showsImage registers plane.other := by
  by_cases hdirect : registers.codingMethod .b = .rgb555
  · have hplane := hhides.eq_a hdirect
    subst hplane
    rw [showsImage, showsImage, Plane.other, h.codingMethod_b]
  · rw [showsImage, showsImage, h.codingMethod_eq hdirect, h.codingMethod_eq hdirect]

/-- The other plane's pixels are resolved by the same rule under the same flags. -/
theorem resolved_other (h : registers.AgreesBeside plane other) (hhides : registers.Hides plane)
    (hmatte : matte.AgreesBeside plane otherMatte) (pixel : Color) :
    (ofRegisters other).resolved otherMatte plane.other pixel =
      (ofRegisters registers).resolved matte plane.other pixel := by
  have hrule : (ofRegisters other).rules.get plane.other =
      (ofRegisters registers).rules.get plane.other := by
    simp only [ofRegisters, PerPlane.get_ofFn, rule?]
    rw [showsImage_other h hhides, h.condition_other, h.transparentColor, h.maskColor]
  rw [resolved, resolved, hrule, hmatte.flags]

/-- Where the hidden plane is transparent, the other one makes the screen color alone. -/
theorem screenColor_of_agreesBeside (h : registers.AgreesBeside plane other)
    (hhides : registers.Hides plane) (hmatte : matte.AgreesBeside plane otherMatte) {x : Nat}
    (hpixel : (lines.get plane).getD x .transparent = .transparent) :
    (ofRegisters other).screenColor lines otherMatte x =
      (ofRegisters registers).screenColor lines matte x := by
  have htransparent (some : RegisterFile) (state : MatteState) (hsome : some.Hides plane) :
      (PerPlane.get (.ofFn fun side ↦ (ofRegisters some).resolved state side
        ((lines.get side).getD x .transparent)) plane).isTransparent = true := by
    rw [PerPlane.get_ofFn, resolved_of_hides hsome, hpixel]
    rfl
  have hmixes : (ofRegisters other).layering.mixes = (ofRegisters registers).layering.mixes :=
    h.mixes
  have hbackdrop : (ofRegisters other).backdrop = (ofRegisters registers).backdrop :=
    congrArg Color.ofCode h.backdrop
  unfold screenColor
  rw [Compositing.composite_eq_alone (htransparent other otherMatte (h.hides hhides)),
    Compositing.composite_eq_alone (htransparent registers matte hhides), PerPlane.get_ofFn,
    PerPlane.get_ofFn, resolved_other h hhides hmatte, hmatte.factor, hmixes, hbackdrop]

/-- The whole row comes out the same. -/
theorem row_of_agreesBeside (h : registers.AgreesBeside plane other)
    (hhides : registers.Hides plane) {doubleWidth : Bool} {count : Nat}
    (hpixels : ∀ x < 2 * count, (lines.get plane).getD x .transparent = .transparent) :
    ((ofRegisters other).scan lines doubleWidth (Decoder.startMatte other) count).row =
      ((ofRegisters registers).scan lines doubleWidth (Decoder.startMatte registers) count).row := by
  rw [row_scan, row_scan]
  apply congrArg List.toArray
  apply List.map_congr_left
  intro column hcolumn
  have hx := planePixel_lt (List.mem_range.mp hcolumn)
  have hcommands : (ofRegisters other).commands = (ofRegisters registers).commands :=
    h.matteCommands
  have hmatte := (agreesBeside_startMatte h).run registers.matteCommands
    (planePixel doubleWidth column / 2 + 1)
  rw [columnColor, columnColor, hcommands]
  exact screenColor_of_agreesBeside h hhides hmatte (hpixels _ hx)

end LineView

end Scanning

/-! ## Showing a line -/

namespace Decoder

variable {decoder after : Decoder} {other : RegisterFile} {plane : Plane}
  {sources others : PerPlane (List UInt8)}

/-- Decoding a plane looks at the registers for nothing but its line. -/
theorem decodeLine_withRegisters (decoder : Decoder)
    (h : PlaneLine.decode other plane decoder.format.baseWidth others =
      PlaneLine.decode decoder.registers plane decoder.format.baseWidth sources) :
    let run := decoder.decodeLine plane sources
    decodeLine { decoder with registers := other } plane others =
      ({ run.1 with registers := other }, run.2) := by
  intro run
  simp only [run, decodeLine, h]
  split
  · rfl
  · split <;> rfl

theorem decodeLines_withRegisters (decoder : Decoder)
    (h : ∀ plane, PlaneLine.decode other plane decoder.format.baseWidth others =
      PlaneLine.decode decoder.registers plane decoder.format.baseWidth sources) :
    let run := decoder.decodeLines sources
    decodeLines { decoder with registers := other } others =
      ({ run.1 with registers := other }, run.2) := by
  intro run
  obtain ⟨buffers, hfirst, -⟩ := decodeLine_fst decoder .a sources
  have hA := decodeLine_withRegisters decoder (h .a)
  have hB : decodeLine { (decoder.decodeLine .a sources).1 with registers := other } .b others =
      ({ ((decoder.decodeLine .a sources).1.decodeLine .b sources).1 with registers := other },
        ((decoder.decodeLine .a sources).1.decodeLine .b sources).2) := by
    apply decodeLine_withRegisters
    rw [hfirst]
    exact h .b
  simp only [run, decodeLines, hA]
  split
  · rfl
  · rw [hB]

/-- After a line has been decoded, the buffer of a hidden plane is transparent. -/
theorem getD_planeLines_of_hides {consumed : PerPlane Nat}
    (hhides : decoder.registers.Hides plane)
    (hdecoded : decoder.decodeLines sources = (after, .ok consumed)) {x : Nat}
    (hx : x < 2 * decoder.format.baseWidth) :
    (after.planeLines.get plane).getD x .transparent = .transparent := by
  obtain ⟨lines, hlines, hfit, rfl, -⟩ := decodeLines_eq_ok_iff.mp hdecoded
  have hpixels := PlaneLine.pixels_of_hides hhides (hlines plane)
  have hpixel : x < (lines.get plane).pixels.size := by rwa [hpixels, Array.size_replicate]
  rw [Array.getD_eq_getD_getElem?, getElem?_withLines decoder (hfit plane) hpixel, hpixels,
    Array.getElem?_replicate, if_pos hx]
  rfl

/-- A scan shows the same row, and it leaves other registers at most. -/
theorem scanLines_of_agreesBeside (decoder : Decoder) (h : decoder.registers.AgreesBeside plane other)
    (hhides : decoder.registers.Hides plane)
    (hpixels : ∀ x < 2 * decoder.format.baseWidth,
      (decoder.planeLines.get plane).getD x .transparent = .transparent) :
    ∃ registers, scanLines { decoder with registers := other } =
      decoder.scanLines.map fun after ↦ { after with registers } := by
  have hrow : (scanRow { decoder with registers := other }).row = decoder.scanRow.row :=
    LineView.row_of_agreesBeside h hhides hpixels
  have hlines : HasPlaneLines { decoder with registers := other } = decoder.HasPlaneLines := rfl
  refine ⟨{ other with
    contributionFactor := (scanRow { decoder with registers := other }).matte.factors }, ?_⟩
  unfold scanLines
  simp only [hlines, hrow, h.backdrop]
  split
  · split <;> rfl
  · rfl

/-- A line is shown the same beside other contents of a hidden plane. Only registers can tell the
two decoders apart afterwards. -/
theorem showLine_of_agreesBeside (h : decoder.registers.AgreesBeside plane other)
    (hhides : decoder.registers.Hides plane)
    (hsources : SourcesAgree plane decoder.registers sources others) :
    let shown := decoder.showLine sources
    ∃ registers, showLine { decoder with registers := other } others =
      ({ shown.1 with registers }, shown.2) := by
  intro shown
  by_cases henabled : decoder.registers.system.displayEnabled = true
  · have hotherEnabled : other.system.displayEnabled = true := h.displayEnabled.trans henabled
    have hdecode := decodeLines_withRegisters decoder fun side ↦
      PlaneLine.decode_of_agreesBeside h hhides hsources side decoder.format.baseWidth
    obtain ⟨buffers, hbuffers, -⟩ := decodeLines_fst decoder sources
    simp only [shown, showLine, henabled, hotherEnabled, if_true, pictureLine, hdecode]
    rcases hrun : decoder.decodeLines sources with ⟨decoded, failure | consumed⟩
    · exact ⟨other, rfl⟩
    · have hpixels (x : Nat) (hx : x < 2 * decoder.format.baseWidth) :=
        getD_planeLines_of_hides hhides hrun hx
      rw [hrun] at hbuffers
      cases hbuffers
      dsimp only
      by_cases hline : decoder.line < decoder.format.activeLines
      · obtain ⟨registers, hscan⟩ :=
          scanLines_of_agreesBeside { decoder with planeLines := buffers } h hhides hpixels
        simp only [if_pos hline, hscan]
        cases scanLines { decoder with planeLines := buffers } with
        | error failure => exact ⟨other, rfl⟩
        | ok after => exact ⟨registers, rfl⟩
      · simp only [if_neg hline]
        exact ⟨other, rfl⟩
  · have hotherEnabled : ¬ other.system.displayEnabled = true := by rwa [h.displayEnabled]
    refine ⟨other, ?_⟩
    simp only [shown, showLine, if_neg henabled, if_neg hotherEnabled, blankLine]
    split
    · split <;> rfl
    · rfl

/-- Direct color on plane B, which its transparency condition makes opaque. -/
def opaqueDirectColor : Decoder :=
  [.system 0x12 0x8000, .register 0xC0 0x100, .register 0xC1 0x800].foldl write (initial default)

theorem reachable_opaqueDirectColor : opaqueDirectColor.Reachable :=
  (((Reachable.initial default).write (.system 0x12 0x8000)).write (.register 0xC0 0x100)).write
    (.register 0xC1 0x800)

/-- A line of words with one upper byte, which come from the source of plane A. -/
def wordsWithUpper (upper : UInt8) : PerPlane (List UInt8) :=
  ⟨List.replicate 360 upper, List.replicate 360 0⟩

/-- What the planes decode these words to. -/
def linesWithUpper (upper : UInt8) : PerPlane PlaneLine :=
  ⟨.blank 360 360, ⟨Array.replicate 720 (directColor upper 0), 360⟩⟩

theorem decode_opaqueDirectColor (upper : UInt8) (plane : Plane) :
    PlaneLine.decode opaqueDirectColor.registers plane opaqueDirectColor.format.baseWidth
      (wordsWithUpper upper) = .ok ((linesWithUpper upper).get plane) := by
  have hdirect : opaqueDirectColor.registers.codingMethod .b = .rgb555 := by decide +kernel
  have hwords : decodeDirectColor 360 (List.replicate 360 upper) (List.replicate 360 0) =
      .ok ⟨List.replicate 360 (directColor upper 0), 360⟩ := by
    have hlength (byte : UInt8) : 360 ≤ (List.replicate 360 byte).length :=
      Nat.le_of_eq List.length_replicate.symm
    rw [decodeDirectColor_eq_ok_iff.mpr ⟨hlength upper, hlength 0, rfl⟩, List.take_replicate,
      List.take_replicate, List.zipWith_replicate']
    rfl
  have hwide : PlaneLine.widen .normal8 (List.replicate 360 (directColor upper 0)) =
      List.replicate 720 (directColor upper 0) := PlaneLine.widen_replicate 360 _
  have hwidth : PlaneLine.decodedWidth opaqueDirectColor.registers.parameters.b.depth
      opaqueDirectColor.format.baseWidth = 360 := by decide +kernel
  have hparameters : opaqueDirectColor.registers.parameters.b = .initial := by decide +kernel
  have hbase : opaqueDirectColor.format.baseWidth = 360 := by decide +kernel
  rw [PlaneLine.decode_direct hdirect, PlaneLine.decodeCombined, hwidth, wordsWithUpper, hwords,
    hparameters, hbase]
  cases plane with
  | a => rfl
  | b =>
    simp only [Except.map, PlaneLine.ofDecoded, DisplayParameters.initial, hwide]
    rfl

/-- The first pixel of the row. -/
theorem get?_opaqueDirectColor (upper : UInt8) :
    let shown := opaqueDirectColor.showLine (wordsWithUpper upper)
    shown.2 = .ok (.both 360) ∧
      shown.1.frame.get? 0 0 = some ((LineView.ofRegisters opaqueDirectColor.registers).columnColor
        ⟨#[.transparent], #[directColor upper 0]⟩ opaqueDirectColor.format.doubleWidth
        (startMatte opaqueDirectColor.registers) 0) := by
  intro shown
  have hfit := reachable_opaqueDirectColor.fitsFormat
  have hline : opaqueDirectColor.line < opaqueDirectColor.format.activeLines := by decide +kernel
  have hshown : ShownLine.ofSources opaqueDirectColor.registers opaqueDirectColor.format
      (wordsWithUpper upper) = .ok (.ofLines opaqueDirectColor.registers opaqueDirectColor.format
        (linesWithUpper upper)) := by
    have henabled : opaqueDirectColor.registers.system.displayEnabled = true := by decide +kernel
    rw [ShownLine.ofSources, if_pos henabled, decode_opaqueDirectColor upper .a,
      decode_opaqueDirectColor upper .b]
    rfl
  obtain ⟨planeLines, frame, backdrop, hframe, hshow⟩ := hfit.showLine_of_ok hline hshown
  have hfirstLine : opaqueDirectColor.line = 0 := by decide +kernel
  have hheight : 0 < opaqueDirectColor.frame.height := by
    rw [hfit.height_frame]
    exact Nat.zero_lt_of_lt hline
  have hwidth : 0 < LineView.rowLength opaqueDirectColor.format.doubleWidth
      opaqueDirectColor.format.baseWidth := by decide +kernel
  simp only [shown, hshow, withLine]
  rw [hfirstLine] at hframe
  refine ⟨rfl, ?_⟩
  rw [Grid.get?_setRow? hframe hheight, if_pos rfl, ShownLine.ofLines,
    LineView.getElem?_row_scan hwidth]
  apply congrArg some
  have hpixel : LineView.planePixel opaqueDirectColor.format.doubleWidth 0 = 0 := by
    unfold LineView.planePixel
    split <;> rfl
  have hfirst (color : Color) : (Array.replicate 720 color).getD 0 .transparent = color := by
    rw [Array.getD_eq_getD_getElem?, Array.getElem?_replicate, if_pos (by decide)]
    rfl
  apply LineView.columnColor_congr
  intro plane
  rw [hpixel]
  cases plane with
  | a => exact hfirst _
  | b => exact hfirst _

/-- A plane without an image of its own leaves no trace in the picture. Whatever the registers hold
for it, in whatever order the planes are, and whatever its source holds unless direct color reads it,
a line succeeds or fails the same, consumes the same and leaves the same frame. The exception is
real: direct color shows the bytes of plane A's source. -/
theorem hidden_plane_leaves_no_trace :
    (∀ (decoder : Decoder) (other : RegisterFile) (plane : Plane)
      (sources others : PerPlane (List UInt8)),
      decoder.registers.Hides plane → decoder.registers.AgreesBeside plane other →
        SourcesAgree plane decoder.registers sources others →
        let shown := decoder.showLine sources
        let altered := showLine { decoder with registers := other } others
        altered.2 = shown.2 ∧ altered.1.frame = shown.1.frame) ∧
    ∃ (decoder : Decoder) (sources : PerPlane (List UInt8)) (bytes : List UInt8),
      decoder.Reachable ∧ decoder.registers.system.displayEnabled = true ∧
        decoder.registers.codingMethod .b = .rgb555 ∧ bytes.length = sources.a.length ∧
        let shown := decoder.showLine sources
        let altered := decoder.showLine (sources.set .a bytes)
        altered.2 = shown.2 ∧
          altered.1.frame.get? 0 decoder.line ≠ shown.1.frame.get? 0 decoder.line := by
  constructor
  · intro decoder other plane sources others hhides h hsources shown altered
    obtain ⟨registers, heq⟩ := showLine_of_agreesBeside h hhides hsources
    simp only [altered, shown, heq, and_self]
  · refine ⟨opaqueDirectColor, wordsWithUpper 0, List.replicate 360 0x7C,
      reachable_opaqueDirectColor, by decide +kernel, by decide +kernel, ?_, ?_⟩
    · rw [wordsWithUpper, List.length_replicate, List.length_replicate]
    · have hwords : (wordsWithUpper 0).set .a (List.replicate 360 0x7C) = wordsWithUpper 0x7C := by
        rw [wordsWithUpper, PerPlane.set, wordsWithUpper]
      have hline : opaqueDirectColor.line = 0 := by decide +kernel
      obtain ⟨hshown, hblack⟩ := get?_opaqueDirectColor 0
      obtain ⟨haltered, hred⟩ := get?_opaqueDirectColor 0x7C
      rw [hwords, hline]
      refine ⟨haltered.trans hshown.symm, ?_⟩
      rw [hblack, hred]
      decide +kernel

/-- Red on plane A, mixed with plane B, which is off. -/
def redMixed : Decoder :=
  redWithMatte.write (.register 0xC1 0x800008)

/-- Other contents of plane B's registers, with plane B in front. -/
def besideRed : RegisterFile :=
  { redMixed.registers with
    transparency := 0x800908
    frontPlane := .b
    transparentColor := ⟨0, 0xFC0000⟩
    maskColor := ⟨0, 0xFF⟩
    yuvSeed := ⟨0, 0x808080⟩
    contributionFactor := ⟨63, 0⟩
    parameters := ⟨.initial, ⟨.mosaic, 4, .double4, true, 9⟩⟩ }

theorem agreesBeside_besideRed : redMixed.registers.AgreesBeside .b besideRed where
  imageCoding _ _ := rfl
  transparency index hindex := by
    have hword : redMixed.registers.transparency = 0x800008 := by decide +kernel
    have hbits : ∀ index < 32, index < 8 ∨ 12 ≤ index →
        Word.bit 0x800908 index = Word.bit 0x800008 index := by decide
    rw [hword]
    exact Word.bit_eq_of_lt fun hlow ↦ hbits index hlow hindex
  transparentColor := by decide +kernel
  maskColor := by decide +kernel
  yuvSeed := by decide +kernel
  contributionFactor := by decide +kernel
  parameters := by decide +kernel
  matteCommands := rfl
  backdrop := rfl
  palette := rfl
  displayEnabled := rfl

theorem hidden_plane_leaves_no_trace_red_mixed :
    TransparencyControl.mixes redMixed.registers.transparency = true ∧
      (showLine { redMixed with registers := besideRed } ⟨List.replicate 360 5, [1, 2, 3]⟩).2 =
        (redMixed.showLine ⟨List.replicate 360 5, []⟩).2 ∧
      (showLine { redMixed with registers := besideRed }
          ⟨List.replicate 360 5, [1, 2, 3]⟩).1.frame =
        (redMixed.showLine ⟨List.replicate 360 5, []⟩).1.frame := by
  have hoff : redMixed.registers.codingMethod .b = .off := by decide +kernel
  have hdirect : redMixed.registers.codingMethod .b ≠ .rgb555 := by decide +kernel
  obtain ⟨hsame, -⟩ := hidden_plane_leaves_no_trace
  constructor
  · decide +kernel
  · generalize (List.replicate 360 5 : List UInt8) = first
    have hsources : SourcesAgree .b redMixed.registers ⟨first, []⟩ ⟨first, [1, 2, 3]⟩ :=
      ⟨rfl, fun hb ↦ absurd hb hdirect⟩
    exact hsame redMixed besideRed .b ⟨first, []⟩ ⟨first, [1, 2, 3]⟩ (.inl hoff)
      agreesBeside_besideRed hsources

end Decoder

end DualPlaneVideo
