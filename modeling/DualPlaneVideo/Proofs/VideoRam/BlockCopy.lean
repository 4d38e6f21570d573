import DualPlaneVideo.Proofs.StoredWords

/-!
# Copying a block

A block is filled slice by slice: first up to the end of memory, then from the start of memory as
often as it takes. No slice leaves memory or the block, and between them they fill the block with the
bytes that would be read one by one.
-/

namespace DualPlaneVideo

namespace VideoRam

/-- The block with `length` bytes of a source in place of its own from `position` on, if both the
source and the block have as many there. -/
def copySlice? (source : Array UInt8) (start : Nat) (block : Array UInt8)
    (position length : Nat) : Option (Array UInt8) :=
  if start + length ≤ source.size ∧ position + length ≤ block.size then
    some (block.extract 0 position ++ source.extract start (start + length) ++
      block.extract (position + length))
  else none

/-- Fills the last `count` bytes of the block in passes over the region from its start. -/
def fillPasses? (region block : Array UInt8) (count : Nat) : Option (Array UInt8) :=
  if count = 0 then some block
  else
    (copySlice? region 0 block (block.size - count) (min count ramSize)).bind fun block ↦
      fillPasses? region block (count - ramSize)
termination_by count
decreasing_by
  have : 0 < ramSize := by decide
  omega

/-- Fills the block with the bytes from an address on, unless a slice is out of range. -/
def fillBlock? (ram : VideoRam) (address : Word) (block : Array UInt8) : Option (Array UInt8) :=
  let start := (cell address).val
  let head := min block.size (ramSize - start)
  (copySlice? ram.bytes.toArray start block 0 head).bind fun block ↦
    fillPasses? ram.bytes.toArray block (block.size - head)

/-! ## Slices in range -/

variable {source region copied rest : Array UInt8} {start length : Nat}

/-- A slice behind what has been copied already adds to it. -/
theorem copySlice?_append (hsource : start + length ≤ source.size) (hrest : length ≤ rest.size) :
    copySlice? source start (copied ++ rest) copied.size length =
      some (copied ++ source.extract start (start + length) ++ rest.extract length) := by
  have hblock : copied.size + length ≤ (copied ++ rest).size := by
    rw [Array.size_append]
    omega
  have hcopied : (copied ++ rest).extract 0 copied.size = copied := by
    simp
  have hbehind : (copied ++ rest).extract (copied.size + length) = rest.extract length := by
    simp [Array.extract_append]
  rw [copySlice?, if_pos ⟨hsource, hblock⟩, hcopied, hbehind]

/-- The passes over the region fill what is left of the block. -/
theorem fillPasses?_append (hregion : region.size = ramSize) (copied rest : Array UInt8) :
    fillPasses? region (copied ++ rest) rest.size =
      some (appendPasses region copied rest.size) := by
  generalize hcount : rest.size = count
  induction copied, count using appendPasses.induct region generalizing rest with
  | case1 copied =>
    rw [fillPasses?, if_pos rfl, appendPasses, if_pos rfl, Array.eq_empty_of_size_eq_zero hcount,
      Array.append_empty]
  | case2 copied count hpositive ih =>
    have hplace : (copied ++ rest).size - count = copied.size := by
      rw [Array.size_append]
      omega
    have hslice : copySlice? region 0 (copied ++ rest) copied.size (min count ramSize) =
        some (copied ++ region.extract 0 (min count ramSize) ++
          rest.extract (min count ramSize)) := by
      have hpass : copySlice? region 0 (copied ++ rest) copied.size (min count ramSize) =
          some (copied ++ region.extract 0 (0 + min count ramSize) ++
            rest.extract (min count ramSize)) := copySlice?_append (by omega) (by omega)
      rwa [Nat.zero_add] at hpass
    rw [fillPasses?, if_neg hpositive, hplace, hslice, Option.bind_some, appendPasses,
      if_neg hpositive]
    apply ih
    rw [Array.size_extract, Nat.min_self]
    omega

/-- No slice is out of range, whatever the block held before. -/
theorem fillBlock?_eq_readBlock (ram : VideoRam) (address : Word) (block : Array UInt8) :
    ram.fillBlock? address block = some (ram.readBlock address block.size) := by
  have hregion : ram.bytes.toArray.size = ramSize := ram.bytes.size_toArray
  have hstart := (cell address).isLt
  unfold fillBlock? readBlock
  dsimp only
  generalize hhead : min block.size (ramSize - (cell address).val) = head
  have hslice : copySlice? ram.bytes.toArray (cell address).val block 0 head =
      some (ram.bytes.toArray.extract (cell address).val ((cell address).val + head) ++
        block.extract head) := by
    have hfirst : copySlice? ram.bytes.toArray (cell address).val (#[] ++ block)
        (Array.size (#[] : Array UInt8)) head =
          some (#[] ++ ram.bytes.toArray.extract (cell address).val ((cell address).val + head) ++
            block.extract head) := copySlice?_append (by omega) (by omega)
    simpa using hfirst
  generalize hcopied : ram.bytes.toArray.extract (cell address).val
    ((cell address).val + head) = copied at hslice
  have hsize : copied.size = head := by
    rw [← hcopied, Array.size_extract]
    omega
  have hrest : (block.extract head).size = block.size - head := by
    rw [Array.size_extract, Nat.min_self]
  have hleft : (copied ++ block.extract head).size - head = (block.extract head).size := by
    rw [Array.size_append, hsize, Nat.add_sub_cancel_left]
  rw [hslice, Option.bind_some, hleft, fillPasses?_append hregion, hrest]

/-! ## Bytes one by one -/

theorem readBlock_eq_read (ram : VideoRam) (address : Word) (count : Nat) :
    ram.readBlock address count = ram.memory.read address count := by
  apply Array.ext_getElem?
  intro index
  by_cases hindex : index < count
  · rw [getElem?_readBlock ram address hindex, Memory.read, Array.getElem?_ofFn, dif_pos hindex]
    exact congrArg some (byte_add ram address index).symm
  · rw [Array.getElem?_eq_none (by rw [size_readBlock]; omega),
      Array.getElem?_eq_none (by rw [Memory.read, Array.size_ofFn]; omega)]

/-- Copying a block slice by slice never takes a slice out of range, and fills the block with the
bytes that are read one by one at successive addresses: byte `index` is the one `index` places behind
the address, modulo the length of memory. -/
theorem fillBlock?_eq_bytewise (ram : VideoRam) (address : Word) (block : Array UInt8) :
    ram.fillBlock? address block = some (ram.readBlock address block.size) ∧
      ram.readBlock address block.size = ram.memory.read address block.size ∧
      (ram.readBlock address block.size).size = block.size ∧
      ∀ index < block.size, (ram.readBlock address block.size)[index]? =
        ram.bytes[(address.toNat + index) % ramSize]? := by
  refine ⟨fillBlock?_eq_readBlock ram address block, readBlock_eq_read ram address block.size,
    size_readBlock ram address block.size, ?_⟩
  intro index hindex
  rw [getElem?_readBlock ram address hindex, ← getElem?_bytes, Vector.getElem?_toArray]

end VideoRam

end DualPlaneVideo
