import DualPlaneVideo.Proofs.Word
import DualPlaneVideo.Transparency

/-!
# What transparency depends on

A rule makes a pixel wholly transparent or wholly opaque and keeps its color. The polarity bit turns
one into the other. A color key compares the upper six bits of each channel, less those that the
mask color takes out, so no other bit of the pixel or of the transparent color counts.
-/

namespace DualPlaneVideo

/-- A masked word is zero if none of its bits is under the mask. -/
theorem Word.and_eq_zero_iff {word mask : Word} :
    word &&& mask = 0 ↔ ∀ index, mask.bit index = true → word.bit index = false := by
  constructor
  · intro hzero index hmask
    have hbit : (word &&& mask).bit index = false := by
      rw [hzero, bit_zero]
    rwa [bit_and, hmask, Bool.and_true] at hbit
  · intro hclear
    apply ext_bit
    intro index
    rw [bit_and, bit_zero]
    cases hmask : mask.bit index with
    | true => rw [hclear index hmask, Bool.false_and]
    | false => rw [Bool.and_false]

/-- Both words have the same bits wherever a color key compares them: in the upper six bits of each
channel, where the mask is clear. -/
def AgreeUnder (mask first second : Word) : Prop :=
  ∀ index, Word.bit 0xFCFCFC index = true → mask.bit index = false →
    first.bit index = second.bit index

namespace AgreeUnder

variable {mask first second third : Word}

theorem symm (h : AgreeUnder mask first second) : AgreeUnder mask second first :=
  fun index hcompared hmask ↦ (h index hcompared hmask).symm

theorem trans (h : AgreeUnder mask first second) (hnext : AgreeUnder mask second third) :
    AgreeUnder mask first third :=
  fun index hcompared hmask ↦ (h index hcompared hmask).trans (hnext index hcompared hmask)

end AgreeUnder

namespace TransparencyCondition

/-- The condition with the other polarity. -/
def flipped (condition : TransparencyCondition) : TransparencyCondition :=
  { condition with inverted := !condition.inverted }

end TransparencyCondition

namespace TransparencyControl

/-- The polarity bit of a plane's condition in the transparency register. -/
def polarityBit : Plane → Word
  | .a => 0x008
  | .b => 0x800

theorem condition_flipped (register : Word) (plane : Plane) :
    condition (register ^^^ polarityBit plane) plane = (condition register plane).flipped := by
  have htest : (register ^^^ polarityBit plane).field (conditionOffset plane) 3 =
      register.field (conditionOffset plane) 3 := by
    apply Word.field_congr
    intro index hindex
    have hclear : ∀ index < 3, (polarityBit plane).bit (conditionOffset plane + index) = false := by
      cases plane <;> decide
    rw [Word.bit_xor, hclear index hindex, Bool.xor_false]
  have hset : (polarityBit plane).bit (conditionOffset plane + 3) = true := by
    cases plane <;> decide
  rw [condition, condition, htest, Word.bit_xor, hset, Bool.xor_true]
  rfl

end TransparencyControl

namespace TransparencyRule

def withCondition (rule : TransparencyRule) (condition : TransparencyCondition) :
    TransparencyRule :=
  { rule with condition }

def withTransparentColor (rule : TransparencyRule) (transparentColor : Word) : TransparencyRule :=
  { rule with transparentColor }

variable {rule : TransparencyRule} {pixel : Color} {flags : MatteFlags} {outcome : Bool}

theorem matchesColor_iff (rule : TransparencyRule) (pixel : Color) :
    rule.matchesColor pixel = true ↔
      AgreeUnder rule.maskColor pixel.toRgb24 rule.transparentColor := by
  have hcompared (index : Nat) : (comparedBits &&& ~~~rule.maskColor).bit index = true ↔
      Word.bit 0xFCFCFC index = true ∧ rule.maskColor.bit index = false := by
    by_cases hindex : index < 32
    · rw [Word.bit_and, Word.bit_not _ hindex, Bool.and_eq_true, Bool.not_eq_true']
      rfl
    · have hclear (word : Word) : word.bit index = false := Word.bit_of_le (Nat.le_of_not_lt hindex)
      simp [hclear]
  rw [matchesColor, beq_iff_eq, Word.and_eq_zero_iff]
  simp only [hcompared, Word.bit_xor, and_imp, AgreeUnder, bne_eq_false_iff_eq]

theorem exists_holds (h : rule.condition.test ≠ .reserved) (pixel : Color) (flags : MatteFlags) :
    ∃ outcome, rule.holds? pixel flags = some outcome := by
  unfold holds?
  cases htest : rule.condition.test with
  | always => exact ⟨_, rfl⟩
  | colorKey => exact ⟨_, rfl⟩
  | transparencyBit => exact ⟨_, rfl⟩
  | matteFlag index => exact ⟨_, rfl⟩
  | matteFlagOrColorKey index => exact ⟨_, rfl⟩
  | reserved => exact absurd htest h

theorem resolve_of_holds (h : rule.holds? pixel flags = some outcome) :
    rule.resolve pixel flags =
      pixel.withAlpha (if outcome != rule.condition.inverted then 0 else 255) := by
  rw [resolve, h]

theorem resolve_of_reserved (h : rule.condition.test = .reserved) (pixel : Color)
    (flags : MatteFlags) : rule.resolve pixel flags = pixel := by
  rw [resolve, holds?, h]

/-- Words that agree where the key compares them match it alike. -/
theorem matchesColor_congr {other : Color} {key : Word}
    (hpixel : AgreeUnder rule.maskColor pixel.toRgb24 other.toRgb24)
    (hkey : AgreeUnder rule.maskColor rule.transparentColor key) :
    (rule.withTransparentColor key).matchesColor other = rule.matchesColor pixel := by
  rw [Bool.eq_iff_iff, matchesColor_iff, matchesColor_iff]
  constructor
  · intro hmatch
    exact (hpixel.trans hmatch).trans hkey.symm
  · intro hmatch
    exact (hpixel.symm.trans hmatch).trans hkey

theorem holds_congr {other : Color} {key : Word} (halpha : other.alpha = pixel.alpha)
    (hpixel : AgreeUnder rule.maskColor pixel.toRgb24 other.toRgb24)
    (hkey : AgreeUnder rule.maskColor rule.transparentColor key) (flags : MatteFlags) :
    (rule.withTransparentColor key).holds? other flags = rule.holds? pixel flags := by
  unfold holds? Color.isTransparent
  rw [matchesColor_congr hpixel hkey, halpha]
  rfl

theorem alpha_resolve_congr {other : Color} {key : Word} (halpha : other.alpha = pixel.alpha)
    (hpixel : AgreeUnder rule.maskColor pixel.toRgb24 other.toRgb24)
    (hkey : AgreeUnder rule.maskColor rule.transparentColor key) (flags : MatteFlags) :
    ((rule.withTransparentColor key).resolve other flags).alpha =
      (rule.resolve pixel flags).alpha := by
  unfold resolve
  rw [holds_congr halpha hpixel hkey flags]
  split
  · exact halpha
  · rfl

theorem alpha_resolve_flipped (h : rule.condition.test ≠ .reserved) (pixel : Color)
    (flags : MatteFlags) :
    ((rule.withCondition rule.condition.flipped).resolve pixel flags).alpha =
      255 - (rule.resolve pixel flags).alpha := by
  obtain ⟨outcome, houtcome⟩ := exists_holds h pixel flags
  have hflipped : (rule.withCondition rule.condition.flipped).holds? pixel flags =
      some outcome := houtcome
  have hopposite : ∀ outcome inverted : Bool, (if outcome != !inverted then 0 else 255 : UInt8) =
      255 - if outcome != inverted then 0 else 255 := by decide
  rw [resolve_of_holds houtcome, resolve_of_holds hflipped]
  exact hopposite outcome rule.condition.inverted

/-- The test comes out true of the pixel, which the rule then makes transparent, or opaque under the
inverted polarity. -/
def ComesTrue (rule : TransparencyRule) (pixel : Color) (flags : MatteFlags) : Prop :=
  (rule.resolve pixel flags).isTransparent = !rule.condition.inverted

theorem comesTrue_iff (h : rule.holds? pixel flags = some outcome) :
    rule.ComesTrue pixel flags ↔ outcome = true := by
  have hshown : ∀ outcome inverted : Bool,
      ((if outcome != inverted then 0 else 255 : UInt8) == 0) = !inverted ↔ outcome = true := by
    decide
  rw [ComesTrue, resolve_of_holds h]
  exact hshown outcome rule.condition.inverted

theorem comesTrue_of_colorKey (h : rule.condition.test = .colorKey) :
    rule.ComesTrue pixel flags ↔
      AgreeUnder rule.maskColor pixel.toRgb24 rule.transparentColor := by
  have houtcome : rule.holds? pixel flags = some (rule.matchesColor pixel) := by
    rw [holds?, h]
  rw [comesTrue_iff houtcome, matchesColor_iff]

theorem comesTrue_of_matteFlagOrColorKey {index : Bool}
    (h : rule.condition.test = .matteFlagOrColorKey index) :
    rule.ComesTrue pixel flags ↔
      flags.get index = true ∨
        AgreeUnder rule.maskColor pixel.toRgb24 rule.transparentColor := by
  have houtcome : rule.holds? pixel flags =
      some (flags.get index || rule.matchesColor pixel) := by
    rw [holds?, h]
  rw [comesTrue_iff houtcome, Bool.or_eq_true, matchesColor_iff]

/-- What a rule makes of a pixel: the reserved test leaves it alone, and any other keeps its color
and makes it wholly transparent or wholly opaque, the other way round under the other polarity. Bits
that a color key does not compare never count. A color key comes true exactly if all the compared
bits agree, and a test of a matte flag or a color key then as well, or else exactly if its own flag
is set. -/
theorem resolve_depends_on_compared_bits (rule : TransparencyRule) (pixel : Color)
    (flags : MatteFlags) :
    let resolved := rule.resolve pixel flags
    let agrees := AgreeUnder rule.maskColor pixel.toRgb24 rule.transparentColor
    (rule.condition.test = .reserved → resolved = pixel) ∧
      (rule.condition.test ≠ .reserved →
        (resolved.red = pixel.red ∧ resolved.green = pixel.green ∧ resolved.blue = pixel.blue) ∧
        (resolved.alpha = 0 ∨ resolved.alpha = 255) ∧
        ((rule.withCondition rule.condition.flipped).resolve pixel flags).alpha =
          255 - resolved.alpha ∧
        ∀ register plane, rule.condition = TransparencyControl.condition register plane →
          let other := TransparencyControl.condition
            (register ^^^ TransparencyControl.polarityBit plane) plane
          ((rule.withCondition other).resolve pixel flags).alpha = 255 - resolved.alpha) ∧
      (∀ (other : Color) (key : Word), other.alpha = pixel.alpha →
        AgreeUnder rule.maskColor pixel.toRgb24 other.toRgb24 →
        AgreeUnder rule.maskColor rule.transparentColor key →
        ((rule.withTransparentColor key).resolve other flags).alpha = resolved.alpha) ∧
      (rule.condition.test = .colorKey → (rule.ComesTrue pixel flags ↔ agrees)) ∧
      ∀ index, rule.condition.test = .matteFlagOrColorKey index →
        (agrees → rule.ComesTrue pixel flags) ∧
          (¬ agrees → (rule.ComesTrue pixel flags ↔ flags.get index = true)) := by
  intro resolved agrees
  refine ⟨fun h ↦ resolve_of_reserved h pixel flags, ?_, ?_, comesTrue_of_colorKey, ?_⟩
  · intro h
    have hflipped := alpha_resolve_flipped h pixel flags
    obtain ⟨outcome, houtcome⟩ := exists_holds h pixel flags
    have hresolved : resolved =
        pixel.withAlpha (if outcome != rule.condition.inverted then 0 else 255) :=
      resolve_of_holds houtcome
    refine ⟨?_, ?_, hflipped, ?_⟩
    · rw [hresolved]
      exact ⟨rfl, rfl, rfl⟩
    · rw [hresolved]
      exact ite_eq_or_eq _ 0 255
    · intro register plane hregister other
      have hother : other = rule.condition.flipped := by
        rw [hregister]
        exact TransparencyControl.condition_flipped register plane
      rwa [hother]
  · intro other key halpha hpixel hkey
    exact alpha_resolve_congr halpha hpixel hkey flags
  · intro index h
    rw [comesTrue_of_matteFlagOrColorKey h]
    exact ⟨Or.inr, fun hdiffers ↦ or_iff_left hdiffers⟩

/-- A dark green as the transparent color, and a mask that takes the red channel out. -/
def greenKey (test : TransparencyTest) (inverted : Bool) : TransparencyRule where
  condition := ⟨test, inverted⟩
  transparentColor := 0x408020
  maskColor := 0xFF0000

/-- The first pixel differs from the key in its red and in low bits of its green, the second one in
an upper bit of its blue. -/
theorem resolve_depends_on_compared_bits_green :
    let near : Color := .solid 0xFF 0x83 0x20
    let far : Color := .solid 0x40 0x80 0xA0
    let turned := (greenKey .colorKey true).withCondition
      (TransparencyControl.condition (0x900 ^^^ TransparencyControl.polarityBit .b) .b)
    (greenKey .colorKey true).condition = TransparencyControl.condition 0x900 .b ∧
      AgreeUnder 0xFF0000 near.toRgb24 0x408020 ∧
      ((greenKey .colorKey true).resolve near ⟨true, true⟩).alpha = 255 ∧
      (turned.resolve near ⟨true, true⟩).alpha = 0 ∧
      (((greenKey .colorKey true).withTransparentColor 0x008123).resolve near ⟨true, true⟩).alpha =
        255 ∧
      ¬ AgreeUnder 0xFF0000 far.toRgb24 0x408020 ∧
      ¬ (greenKey (.matteFlagOrColorKey true) false).ComesTrue far ⟨true, false⟩ ∧
      (greenKey (.matteFlagOrColorKey true) false).ComesTrue near ⟨false, false⟩ ∧
      (greenKey .reserved false).resolve near ⟨true, true⟩ = near := by
  intro near far turned
  have hnear : AgreeUnder 0xFF0000 near.toRgb24 0x408020 :=
    (matchesColor_iff (greenKey .colorKey true) near).mp (by decide)
  have hfar : ¬ AgreeUnder 0xFF0000 far.toRgb24 0x408020 :=
    mt (matchesColor_iff (greenKey .colorKey true) far).mpr (by decide)
  have hturned : AgreeUnder 0xFF0000 0x408020 0x008123 :=
    AgreeUnder.symm ((matchesColor_iff (greenKey .colorKey true) (.solid 0x00 0x81 0x23)).mp
      (by decide))
  have hopaque : ((greenKey .colorKey true).resolve near ⟨true, true⟩).alpha = 255 := by decide
  obtain ⟨-, hkept, hsame, -, -⟩ :=
    resolve_depends_on_compared_bits (greenKey .colorKey true) near ⟨true, true⟩
  obtain ⟨-, -, -, hpolarity⟩ := hkept (by decide)
  obtain ⟨-, -, -, -, hflag⟩ :=
    resolve_depends_on_compared_bits (greenKey (.matteFlagOrColorKey true) false) far ⟨true, false⟩
  obtain ⟨-, -, -, -, hcolor⟩ :=
    resolve_depends_on_compared_bits (greenKey (.matteFlagOrColorKey true) false) near
      ⟨false, false⟩
  obtain ⟨hreserved, -⟩ :=
    resolve_depends_on_compared_bits (greenKey .reserved false) near ⟨true, true⟩
  refine ⟨by decide, hnear, hopaque, ?_, ?_, hfar, ?_, (hcolor true rfl).1 hnear, hreserved rfl⟩
  · rw [hpolarity 0x900 .b (by decide), hopaque]
    rfl
  · rw [hsame near 0x008123 rfl (fun _ _ _ ↦ rfl) hturned, hopaque]
  · rw [(hflag true rfl).2 hfar]
    decide

end TransparencyRule

end DualPlaneVideo
