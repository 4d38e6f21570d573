import DualPlaneVideo.Plane

/-!
# Failures

An operation stops either because the program asked for something the display does not support, or
because its caller broke a promise: a line's source bytes ran out, a line is longer than the buffer
that holds it, a row lies outside the frame, a plane without an image of its own was to be decoded,
or a control area is longer than the address space.
-/

namespace DualPlaneVideo

inductive Failure where
  | mosaicImage (plane : Plane)
  | reservedPixelDepth (plane : Plane) (value : Nat)
  | doubleResolutionCursor
  | sourceExhausted
  | lineOutsideBuffer
  | rowOutsideFrame
  | noOwnImage (plane : Plane)
  | areaTooLong
  deriving DecidableEq

namespace Failure

/-- A read or a write outside the bytes or pixels that there are, or a line of a plane that has
none. -/
def isOutOfBounds : Failure → Bool
  | sourceExhausted | lineOutsideBuffer | rowOutsideFrame | noOwnImage _ => true
  | _ => false

/-- The failures that a caller who keeps its promises never sees. -/
def isBrokenPromise (failure : Failure) : Bool :=
  failure.isOutOfBounds || failure == areaTooLong

def message : Failure → String
  | mosaicImage plane =>
    "Plane " ++ plane.letter ++ " uses the mosaic image type, which is not supported"
  | reservedPixelDepth plane value =>
    "Plane " ++ plane.letter ++ " selected reserved bits-per-pixel value " ++ toString value
  | doubleResolutionCursor => "Double resolution cursor is not supported"
  | sourceExhausted => "The source bytes end before the line does"
  | lineOutsideBuffer => "The line is longer than its buffer"
  | rowOutsideFrame => "The row lies outside the frame"
  | noOwnImage plane => "Plane " ++ plane.letter ++ " has no image of its own"
  | areaTooLong => "The display control area does not fit in the address space"

end Failure

end DualPlaneVideo
