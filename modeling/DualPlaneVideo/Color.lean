import DualPlaneVideo.Word

/-!
# Colors

A pixel is a red, green, blue and alpha byte. Registers and palette entries carry 24-bit colors
without alpha; the backdrop and the cursor use four-bit codes of one intensity bit and three
channel bits.
-/

namespace DualPlaneVideo

@[ext] structure Color where
  red : UInt8
  green : UInt8
  blue : UInt8
  alpha : UInt8
  deriving DecidableEq

namespace Color

def solid (red green blue : UInt8) : Color := ⟨red, green, blue, 255⟩

def transparent : Color := ⟨0, 0, 0, 0⟩

def black : Color := solid 0 0 0

instance : Inhabited Color := ⟨black⟩

/-- The opaque color of the low 24 bits; the top byte is ignored. -/
def ofRgb24 (word : Word) : Color :=
  solid (word.field 16 8).toUInt8 (word.field 8 8).toUInt8 (word.field 0 8).toUInt8

def toRgb24 (color : Color) : Word :=
  (color.red.toUInt32 <<< 16) ||| (color.green.toUInt32 <<< 8) ||| color.blue.toUInt32

def isTransparent (color : Color) : Bool := color.alpha == 0

def withAlpha (color : Color) (alpha : UInt8) : Color := { color with alpha }

/-- The color of a four-bit code: bit 3 selects full or half intensity, and bits 2, 1 and 0 light
red, green and blue. -/
def ofCode (code : UInt8) : Color :=
  let level : UInt8 := if code.toNat.testBit 3 then 255 else 128
  let channel (index : Nat) : UInt8 := if code.toNat.testBit index then level else 0
  solid (channel 2) (channel 1) (channel 0)

/-- The channel value nearest to an integer. -/
def clampChannel (value : Int) : UInt8 :=
  (max 0 (min 255 value)).toNat.toUInt8

theorem toNat_clampChannel (value : Int) :
    ((clampChannel value).toNat : Int) = max 0 (min 255 value) := by
  have hlow : 0 ≤ max 0 (min 255 value) := Int.le_max_left _ _
  have hhigh : max 0 (min 255 value) ≤ 255 := Int.max_le.mpr ⟨by decide, Int.min_le_left _ _⟩
  have hfits : (max 0 (min 255 value)).toNat < 256 := by omega
  rw [clampChannel, Nat.toUInt8, UInt8.toNat_ofNat', Nat.mod_eq_of_lt hfits,
    Int.toNat_of_nonneg hlow]

end Color

end DualPlaneVideo
