import DualPlaneVideo.Color
import DualPlaneVideo.Failure

/-!
# Source bytes of a line

A plane's line is decoded from a list of source bytes that usually goes on past the line. A decoder
tells how many bytes from its front it has used, and fails when there are too few.
-/

namespace DualPlaneVideo

/-- A decoded line, one entry for each pixel, and the number of source bytes it took. -/
structure DecodedLine where
  pixels : List Color
  consumed : Nat
  deriving DecidableEq

/-- The first `count` bytes of a source. -/
def takeBytes (count : Nat) (source : List UInt8) : Except Failure (List UInt8) :=
  if count ≤ source.length then .ok (source.take count) else .error .sourceExhausted

/-- The number of two-pixel groups that cover `width` pixels. -/
def pairCount (width : Nat) : Nat := (width + 1) / 2

end DualPlaneVideo
