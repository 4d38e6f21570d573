import DualPlaneVideo.Color
import DualPlaneVideo.Plane

/-!
# Compositing

The two planes' pixels and the backdrop become one pixel of the screen. In overlay the front plane
hides the back plane, and both hide the backdrop, wherever they are not transparent; in a mix the
planes are added. Either way a plane is first weighted by its contribution factor, relative to the
black level of the video signal.
-/

namespace DualPlaneVideo

/-- How the planes are layered along a line. -/
structure Layering where
  front : Plane
  mixes : Bool
  deriving DecidableEq

namespace Compositing

def blackLevel : Int := 16

/-- Full contribution; larger factors count as this one. -/
def fullFactor : Nat := 63

/-- What a transparent plane adds to a mix: the black level itself. -/
def neutral : Color := .solid 16 16 16

/-- The channel moved towards the black level, truncating towards it. -/
def weightedChannel (channel factor : UInt8) : UInt8 :=
  let weight : Int := min factor.toNat fullFactor
  Color.clampChannel ((weight * (channel.toNat - blackLevel)).tdiv fullFactor + blackLevel)

def weighted (color : Color) (factor : UInt8) : Color :=
  .solid (weightedChannel color.red factor) (weightedChannel color.green factor)
    (weightedChannel color.blue factor)

def addChannels (a b : UInt8) : UInt8 :=
  Color.clampChannel (a.toNat + b.toNat - blackLevel)

/-- Channelwise sum of two weighted pixels. -/
def addColors (a b : Color) : Color :=
  .solid (addChannels a.red b.red) (addChannels a.green b.green) (addChannels a.blue b.blue)

/-- A plane's share of a mix. -/
def share (pixel : Color) (factor : UInt8) : Color :=
  weighted (if pixel.isTransparent then neutral else pixel) factor

/-- The screen pixel. It is always opaque. -/
def composite (pixels : PerPlane Color) (backdrop : Color) (factors : PerPlane UInt8)
    (layering : Layering) : Color :=
  if layering.mixes then
    addColors (share pixels.a factors.a) (share pixels.b factors.b)
  else
    let front := layering.front
    if !(pixels.get front).isTransparent then weighted (pixels.get front) (factors.get front)
    else if !(pixels.get front.other).isTransparent then
      weighted (pixels.get front.other) (factors.get front.other)
    else backdrop.withAlpha 255

end Compositing

end DualPlaneVideo
