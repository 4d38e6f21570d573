import DualPlaneVideo.Color

/-!
# Palette

The color lookup table has 256 entries of 24 bits. Control programs reach it through four banks of
64 entries; indices outside the table wrap.
-/

namespace DualPlaneVideo

structure Palette where
  entries : Vector Word 256

namespace Palette

def zeroed : Palette := ⟨Vector.replicate 256 0⟩

instance : Inhabited Palette := ⟨zeroed⟩

/-- The entry that an index selects. -/
def entry (index : Nat) : Fin 256 :=
  ⟨index % 256, Nat.mod_lt _ (by decide)⟩

/-- The index of entry `offset` of a bank: the low two bits of one and the low six of the other. -/
def indexInBank (bank offset : UInt8) : Nat :=
  bitField bank.toNat 0 2 * 64 + bitField offset.toNat 0 6

def read (palette : Palette) (index : Nat) : Word :=
  palette.entries[entry index]

def write (palette : Palette) (index : Nat) (value : Word) : Palette :=
  ⟨palette.entries.set (entry index) value.low24 (entry index).isLt⟩

def color (palette : Palette) (index : Nat) : Color :=
  .ofRgb24 (palette.read index)

end Palette

end DualPlaneVideo
