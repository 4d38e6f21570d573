/-!
# Register words

Registers, instruction operands and addresses are 32-bit words. A field of a word is named by its
lowest bit and its width, and read as a natural number.
-/

namespace DualPlaneVideo

/-- A register value, an instruction operand or a byte address. -/
abbrev Word := UInt32

/-- The `width` bits of `value` from bit `low` upwards. -/
def bitField (value low width : Nat) : Nat :=
  (value >>> low) % (1 <<< width)

theorem bitField_lt (value low width : Nat) : bitField value low width < 1 <<< width := by
  apply Nat.mod_lt
  rw [Nat.one_shiftLeft]
  exact Nat.two_pow_pos width

namespace Word

def bit (word : Word) (index : Nat) : Bool :=
  word.toNat.testBit index

def field (word : Word) (low width : Nat) : Nat :=
  bitField word.toNat low width

/-- The low 24 bits, which is all that an instruction operand or a color holds. -/
def low24 (word : Word) : Word :=
  word &&& 0xFFFFFF

theorem field_lt (word : Word) (low width : Nat) : word.field low width < 1 <<< width :=
  bitField_lt _ _ _

theorem toNat_low24 (word : Word) : word.low24.toNat = word.toNat % 0x1000000 := by
  rw [low24, UInt32.toNat_and]
  exact Nat.and_two_pow_sub_one_eq_mod word.toNat 24

theorem low24_lt (word : Word) : word.low24.toNat < 0x1000000 := by
  rw [toNat_low24]
  exact Nat.mod_lt _ (by decide)

end Word

end DualPlaneVideo
