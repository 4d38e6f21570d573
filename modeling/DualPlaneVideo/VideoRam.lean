import DualPlaneVideo.Word

/-!
# Video memory

Control programs and image data are read from a region of one mebibyte. An address is a 32-bit
word, and only its low 20 bits count, so every access wraps inside the region. Words are
big-endian.
-/

namespace DualPlaneVideo

/-- What a reader of memory sees: the byte at every address. -/
abbrev Memory := Word → UInt8

namespace Memory

def longword (memory : Memory) (address : Word) : Word :=
  ((memory address).toUInt32 <<< 24) ||| ((memory (address + 1)).toUInt32 <<< 16) |||
    ((memory (address + 2)).toUInt32 <<< 8) ||| (memory (address + 3)).toUInt32

/-- The `count` bytes from `address` on, each fetched at its own address. -/
def read (memory : Memory) (address : Word) (count : Nat) : Array UInt8 :=
  Array.ofFn fun index : Fin count ↦ memory (address + index.val.toUInt32)

end Memory

/-- The address inside the region. -/
def wrapAddress (address : Word) : Word :=
  address &&& 0xFFFFF

/-- The length of the region in bytes. -/
abbrev ramSize : Nat := 0x100000

structure VideoRam where
  bytes : Vector UInt8 ramSize

namespace VideoRam

def zeroed : VideoRam := ⟨Vector.replicate ramSize 0⟩

instance : Inhabited VideoRam := ⟨zeroed⟩

/-- The cell that an address selects. -/
def cell (address : Word) : Fin ramSize :=
  ⟨address.toNat % ramSize, Nat.mod_lt _ (by decide)⟩

def byte (ram : VideoRam) (address : Word) : UInt8 :=
  ram.bytes[cell address]

def memory (ram : VideoRam) : Memory := ram.byte

def setByte (ram : VideoRam) (address : Word) (value : UInt8) : VideoRam :=
  ⟨ram.bytes.set (cell address) value (cell address).isLt⟩

/-- The even address at or below. -/
def evenAddress (address : Word) : Word :=
  address &&& ~~~1

def word (ram : VideoRam) (address : Word) : UInt16 :=
  ((ram.byte (evenAddress address)).toUInt16 <<< 8) |||
    (ram.byte (evenAddress address + 1)).toUInt16

def setWord (ram : VideoRam) (address : Word) (value : UInt16) : VideoRam :=
  (ram.setByte (evenAddress address) (value >>> 8).toUInt8).setByte
    (evenAddress address + 1) value.toUInt8

/-- Stores the bytes at successive addresses; where the block laps itself the later byte stays. -/
def load (ram : VideoRam) (address : Word) : List UInt8 → VideoRam
  | [] => ram
  | byte :: rest => (ram.setByte address byte).load (address + 1) rest

/-- Appends `count` bytes in passes over the region from its start. -/
def appendPasses (region : Array UInt8) (copied : Array UInt8) (count : Nat) : Array UInt8 :=
  if count = 0 then copied
  else
    appendPasses region (copied ++ region.extract 0 (min count ramSize)) (count - ramSize)
termination_by count
decreasing_by
  have : 0 < ramSize := by decide
  omega

/-- The same bytes as `Memory.read`, copied in blocks: up to the end of the region, then in passes
over the whole of it. -/
def readBlock (ram : VideoRam) (address : Word) (count : Nat) : Array UInt8 :=
  let start := (cell address).val
  let head := min count (ramSize - start)
  appendPasses ram.bytes.toArray (ram.bytes.toArray.extract start (start + head)) (count - head)

end VideoRam

end DualPlaneVideo
