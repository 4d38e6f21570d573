import DualPlaneVideo.Line.Source

/-!
# Delta-coded images

In DYUV two bytes encode two pixels as differences of luma and chroma, each quantized to four bits.
Differences add up along the line, modulo 256, from the start value in the seed register. Chroma
changes once for each pair: the second pixel has the new chroma and the first the mean of the old
and the new.
-/

namespace DualPlaneVideo

/-- The difference that each four-bit code stands for. -/
def dequantizer : Vector UInt8 16 :=
  #v[0, 1, 4, 9, 16, 27, 44, 79, 128, 177, 212, 229, 240, 247, 252, 255]

/-- The difference coded by four bits of a byte. -/
def delta (byte : UInt8) (offset : Nat) : UInt8 :=
  let code := bitField byte.toNat offset 4
  have : code < 16 := bitField_lt byte.toNat offset 4
  dequantizer[code]

/-- Luma and chroma of a pixel. -/
@[ext] structure Yuv where
  y : UInt8
  u : UInt8
  v : UInt8
  deriving DecidableEq

namespace Yuv

/-- The start value of a line. -/
def ofSeed (register : Word) : Yuv where
  y := (register.field 16 8).toUInt8
  u := (register.field 8 8).toUInt8
  v := (register.field 0 8).toUInt8

/-- A chroma value's share of a color channel, in 256ths, truncated towards zero. -/
def chromaTerm (weight : Int) (chroma : UInt8) : Int :=
  (weight * (chroma.toNat - 128)).tdiv 256

def toColor (pixel : Yuv) : Color :=
  let y : Int := pixel.y.toNat
  .solid
    (Color.clampChannel (y + chromaTerm 351 pixel.v))
    (Color.clampChannel (y - (chromaTerm 86 pixel.u + chromaTerm 179 pixel.v)))
    (Color.clampChannel (y + chromaTerm 444 pixel.u))

/-- The mean of two chroma values, rounded down. -/
def mean (first second : UInt8) : UInt8 := ((first.toNat + second.toNat) / 2).toUInt8

/-- The two pixels of a pair; the second is also where the next pair goes on from. -/
def nextPair (last : Yuv) (high low : UInt8) : Yuv × Yuv :=
  let y := last.y + delta high 0
  let second : Yuv := ⟨y + delta low 0, last.u + delta high 4, last.v + delta low 4⟩
  (⟨y, mean last.u second.u, mean last.v second.v⟩, second)

/-- The pixels of a list of pairs. -/
def pixels (last : Yuv) : List UInt8 → List Yuv
  | high :: low :: rest =>
    let pair := last.nextPair high low
    pair.1 :: pair.2 :: pair.2.pixels rest
  | _ => []

end Yuv

/-- A line of `width` pixels; of an odd line's last pair only the first pixel counts. -/
def decodeDeltaYuv (seed : Yuv) (width : Nat) (source : List UInt8) :
    Except Failure DecodedLine :=
  (takeBytes (2 * pairCount width) source).map fun bytes ↦
    ⟨((seed.pixels bytes).take width).map Yuv.toColor, 2 * pairCount width⟩

end DualPlaneVideo
