import DualPlaneVideo.DisplayParameters
import DualPlaneVideo.Line.Indexed

/-!
# Run-length images

A run-length line is a sequence of runs. The first byte of a run holds one code of seven bits, or
two codes of three bits that repeat as a pair; its top bit announces a count byte, without which
the run is a single one. A count of zero fills the line. A run stops at the end of the line, and
nothing after the run that completes the line is read.
-/

namespace DualPlaneVideo

inductive RunForm where
  | single
  | paired
  deriving DecidableEq

namespace RunForm

def ofDepth : PixelDepth → RunForm
  | .double4 => paired
  | .normal8 | .high8 => single

/-- The codes in the first byte of a run. -/
def codes (form : RunForm) (byte : UInt8) : List UInt8 :=
  match form with
  | single => [(bitField byte.toNat 0 7).toUInt8]
  | paired => [(bitField byte.toNat 4 3).toUInt8, (bitField byte.toNat 0 3).toUInt8]

/-- The codes of a run that repeats `count` times on a line with room for `room` more pixels. -/
def expand (form : RunForm) (byte : UInt8) (count room : Nat) : List UInt8 :=
  (List.replicate count (form.codes byte)).flatten.take room

/-- How often a run with this count byte repeats; as often as there is room for zero. -/
def repeats (count : UInt8) (room : Nat) : Nat :=
  if count = 0 then room else count.toNat

/-- The codes of a line with room for `room` more pixels, and the bytes that they took. -/
def lineCodes (form : RunForm) (room : Nat) (source : List UInt8) :
    Except Failure (List UInt8 × Nat) :=
  if room = 0 then .ok ([], 0)
  else
    match source with
    | [] => .error .sourceExhausted
    | byte :: rest =>
      if byte.toNat.testBit 7 then
        match rest with
        | [] => .error .sourceExhausted
        | count :: rest =>
          let run := form.expand byte (repeats count room) room
          (form.lineCodes (room - run.length) rest).map fun line ↦
            (run ++ line.1, line.2 + 2)
      else
        let run := form.expand byte 1 room
        (form.lineCodes (room - run.length) rest).map fun line ↦ (run ++ line.1, line.2 + 1)

end RunForm

/-- A line of `width` pixels. -/
def decodeRunLength (palette : Palette) (view : PaletteView) (form : RunForm) (width : Nat)
    (source : List UInt8) : Except Failure DecodedLine :=
  (form.lineCodes width source).map fun line ↦ ⟨line.1.map (view.color palette), line.2⟩

end DualPlaneVideo
