import DualPlaneVideo.Line.Source

/-!
# Direct color images

In RGB555 a pixel is a 16-bit word whose upper byte comes from the source of plane A and whose
lower byte comes from that of plane B: a bit that makes the pixel opaque, then five bits each of
red, green and blue.
-/

namespace DualPlaneVideo

/-- The pixel of a word; its channels are five bits wide and stand in the upper bits of a byte. -/
def directColor (high low : UInt8) : Color :=
  let word := high.toNat * 256 + low.toNat
  let channel (offset : Nat) : UInt8 := (bitField word offset 5 * 8).toUInt8
  ⟨channel 10, channel 5, channel 0, if word.testBit 15 then 255 else 0⟩

/-- A line of `width` pixels; it takes `width` bytes of each source. -/
def decodeDirectColor (width : Nat) (high low : List UInt8) : Except Failure DecodedLine := do
  let highBytes ← takeBytes width high
  let lowBytes ← takeBytes width low
  return ⟨List.zipWith directColor highBytes lowBytes, width⟩

end DualPlaneVideo
