import DualPlaneVideo.Word
import Mathlib.Tactic.Common

/-!
# Words bit by bit

A word is settled by its bits, and a field of it by the bits of the field, so a change of other bits
leaves the field as it is.
-/

namespace DualPlaneVideo

theorem testBit_bitField (value low width index : Nat) :
    (bitField value low width).testBit index =
      (decide (index < width) && value.testBit (low + index)) := by
  rw [bitField, Nat.one_shiftLeft, Nat.testBit_mod_two_pow, Nat.testBit_shiftRight]

/-- A number has no bits past its width. -/
theorem testBit_of_width_le {value width index : Nat} (hvalue : value < 1 <<< width)
    (h : width ≤ index) : value.testBit index = false := by
  rw [Nat.one_shiftLeft] at hvalue
  exact Nat.testBit_lt_two_pow (Nat.lt_of_lt_of_le hvalue (Nat.pow_le_pow_right Nat.two_pos h))

namespace Word

variable {word other : Word}

theorem ext_bit (h : ∀ index, word.bit index = other.bit index) : word = other := by
  apply UInt32.toNat_inj.mp
  apply Nat.eq_of_testBit_eq
  exact h

/-- There are no bits past the width of a word. -/
theorem bit_of_le {index : Nat} (h : 32 ≤ index) : word.bit index = false :=
  testBit_of_width_le (show word.toNat < 1 <<< 32 from word.toNat_lt) h

/-- Words that agree inside their width agree in every bit. -/
theorem bit_eq_of_lt {index : Nat} (h : index < 32 → word.bit index = other.bit index) :
    word.bit index = other.bit index := by
  by_cases hindex : index < 32
  · exact h hindex
  · rw [bit_of_le (Nat.le_of_not_lt hindex), bit_of_le (Nat.le_of_not_lt hindex)]

/-- Words with the same bits in a field have the same field. -/
theorem field_congr {low width : Nat}
    (h : ∀ index < width, word.bit (low + index) = other.bit (low + index)) :
    word.field low width = other.field low width := by
  apply Nat.eq_of_testBit_eq
  intro index
  rw [field, field, testBit_bitField, testBit_bitField]
  by_cases hindex : index < width
  · have hbit : word.toNat.testBit (low + index) = other.toNat.testBit (low + index) :=
      h index hindex
    rw [hbit]
  · rw [decide_eq_false hindex, Bool.false_and, Bool.false_and]

theorem bit_and (word mask : Word) (index : Nat) :
    (word &&& mask).bit index = (word.bit index && mask.bit index) := by
  rw [bit, UInt32.toNat_and, Nat.testBit_and]
  rfl

theorem bit_or (word other : Word) (index : Nat) :
    (word ||| other).bit index = (word.bit index || other.bit index) := by
  rw [bit, UInt32.toNat_or, Nat.testBit_or]
  rfl

theorem bit_xor (word other : Word) (index : Nat) :
    (word ^^^ other).bit index = (word.bit index ^^ other.bit index) := by
  rw [bit, UInt32.toNat_xor, Nat.testBit_xor]
  rfl

theorem bit_not (word : Word) {index : Nat} (h : index < 32) :
    (~~~word).bit index = !word.bit index := by
  have hsize : UInt32.size = 2 ^ 32 := rfl
  have hflipped : (~~~word).toNat = 2 ^ 32 - (word.toNat + 1) := by
    rw [UInt32.toNat_not, hsize, Nat.sub_sub, Nat.add_comm 1]
  rw [bit, hflipped, Nat.testBit_two_pow_sub_succ word.toNat_lt, decide_eq_true h, Bool.true_and]
  rfl

theorem bit_zero (index : Nat) : bit 0 index = false := Nat.zero_testBit index

/-- A field fits the byte that keeps it. -/
theorem toNat_toUInt8_field (word : Word) (low : Nat) {width : Nat} (hwidth : width < 8) :
    (word.field low width).toUInt8.toNat = word.field low width := by
  rw [Nat.toUInt8, UInt8.toNat_ofNat']
  apply Nat.mod_eq_of_lt
  calc
    word.field low width < 1 <<< width := word.field_lt low width
    _ = 2 ^ width := Nat.one_shiftLeft width
    _ ≤ 2 ^ 8 := Nat.pow_le_pow_right Nat.two_pos (Nat.le_of_lt hwidth)

/-! ## The low bits of a word -/

/-- The low `width` bits of a word, as a word. -/
def lowBits (word : Word) (width : Nat) : Word := (word.field 0 width).toUInt32

theorem lowBits_24 (word : Word) : word.lowBits 24 = word.low24 := by
  apply UInt32.toNat_inj.mp
  rw [toNat_low24, lowBits, Nat.toUInt32, UInt32.toNat_ofNat']
  change word.toNat % 0x1000000 % 2 ^ 32 = word.toNat % 0x1000000
  omega

theorem lowBits_1 (word : Word) : word.lowBits 1 = if word.bit 0 then 1 else 0 := by
  have hfield : word.field 0 1 = if word.bit 0 then 1 else 0 := by
    change word.toNat % 2 = if word.toNat.testBit 0 then 1 else 0
    simp only [Nat.testBit_zero, decide_eq_true_eq]
    split <;> omega
  rw [lowBits, hfield]
  split <;> rfl

/-- A register of a byte gives back the bits that it has taken. -/
theorem toUInt32_toUInt8_field (word : Word) {width : Nat} (hwidth : width < 8) :
    (word.field 0 width).toUInt8.toUInt32 = word.lowBits width := by
  apply UInt32.toNat_inj.mp
  have hbyte := (word.field 0 width).toUInt8.toNat_lt
  rw [UInt8.toNat_toUInt32, lowBits, Nat.toUInt32, UInt32.toNat_ofNat']
  rw [toNat_toUInt8_field word 0 hwidth] at hbyte ⊢
  omega

theorem bit_low24 (word : Word) {index : Nat} (h : index < 24) :
    word.low24.bit index = word.bit index := by
  have hmask : ∀ index < 24, Word.bit 0xFFFFFF index = true := by decide
  rw [low24, bit_and, hmask index h, Bool.and_true]

theorem field_low24 (word : Word) {low width : Nat} (h : low + width ≤ 24) :
    word.low24.field low width = word.field low width := by
  apply field_congr
  intro index hindex
  exact bit_low24 word (by omega)

theorem lowBits_low24 (word : Word) {width : Nat} (h : width ≤ 24) :
    word.low24.lowBits width = word.lowBits width := by
  rw [lowBits, lowBits, field_low24 word (by omega)]

theorem low24_low24 (word : Word) : word.low24.low24 = word.low24 := by
  rw [← lowBits_24, lowBits_low24 word (Nat.le_refl 24), lowBits_24]

theorem toUInt16_low24 (word : Word) : word.low24.toUInt16 = word.toUInt16 := by
  apply UInt16.toNat_inj.mp
  rw [UInt32.toNat_toUInt16, UInt32.toNat_toUInt16, toNat_low24]
  omega

end Word

end DualPlaneVideo
