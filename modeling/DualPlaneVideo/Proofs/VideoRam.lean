import DualPlaneVideo.VideoRam

/-!
# Blocks of video memory

A block has as many bytes as were asked for, wherever it starts and however often it wraps, and they
are the bytes at successive addresses.
-/

namespace DualPlaneVideo

theorem toNat_wrapAddress (address : Word) :
    (wrapAddress address).toNat = address.toNat % ramSize := by
  rw [wrapAddress, UInt32.toNat_and]
  exact Nat.and_two_pow_sub_one_eq_mod address.toNat 20

/-- The address of a position that is counted from the start of memory, and on beyond its end. -/
def addressAt (position : Nat) : Word := (position % ramSize).toUInt32

theorem toNat_addressAt (position : Nat) : (addressAt position).toNat = position % ramSize := by
  have hposition := Nat.mod_lt position (show 0 < ramSize by decide)
  rw [addressAt, Nat.toUInt32, UInt32.toNat_ofNat']
  apply Nat.mod_eq_of_lt
  exact Nat.lt_trans hposition (by decide)

/-- Sums of addresses wrap like positions. -/
theorem wrapAddress_add (address : Word) (count : Nat) :
    wrapAddress (address + count.toUInt32) = addressAt (address.toNat + count) := by
  rw [← UInt32.toNat_inj, toNat_wrapAddress, toNat_addressAt, UInt32.toNat_add, Nat.toUInt32,
    UInt32.toNat_ofNat']
  simp only [ramSize]
  omega

theorem addressAt_add (position count : Nat) :
    addressAt ((addressAt position).toNat + count) = addressAt (position + count) := by
  rw [← UInt32.toNat_inj, toNat_addressAt, toNat_addressAt, toNat_addressAt, Nat.mod_add_mod]

namespace VideoRam

theorem cell_addressAt (position : Nat) :
    (cell (addressAt position)).val = position % ramSize := by
  calc
    (cell (addressAt position)).val = (addressAt position).toNat % ramSize := rfl
    _ = position % ramSize % ramSize := by rw [toNat_addressAt]
    _ = position % ramSize := Nat.mod_mod _ _

/-- The bytes of the region are those at the addresses below its length. -/
theorem getElem?_bytes (ram : VideoRam) (position : Nat) :
    ram.bytes.toArray[position % ramSize]? = some (ram.byte (addressAt position)) := by
  rw [← cell_addressAt, Array.getElem?_eq_getElem (by rw [ram.bytes.size_toArray]; exact Fin.isLt _)]
  rfl

/-- A pass over the region shows the bytes in their order. -/
theorem getElem?_appendPass {region : Array UInt8} (hregion : region.size = ramSize)
    (copied : Array UInt8) {count index : Nat} (hle : copied.size ≤ index)
    (hlt : index < copied.size + min count ramSize) :
    (copied ++ region.extract 0 (min count ramSize))[index]? =
      region[(index - copied.size) % ramSize]? := by
  have hmod : (index - copied.size) % ramSize = index - copied.size := by
    apply Nat.mod_eq_of_lt
    omega
  rw [Array.getElem?_append_right hle, Array.getElem?_extract, if_pos (by omega), hmod, Nat.zero_add]

theorem getElem?_appendPasses {region : Array UInt8} (hregion : region.size = ramSize)
    (copied : Array UInt8) (count : Nat) (index : Nat) :
    (appendPasses region copied count)[index]? =
      if index < copied.size then copied[index]?
      else if index < copied.size + count then region[(index - copied.size) % ramSize]?
      else none := by
  induction copied, count using appendPasses.induct region with
  | case1 copied =>
    rw [appendPasses, if_pos rfl, Nat.add_zero]
    by_cases hindex : index < copied.size
    · rw [if_pos hindex]
    · rw [if_neg hindex, if_neg hindex, Array.getElem?_eq_none (Nat.le_of_not_lt hindex)]
  | case2 copied count hcount ih =>
    have hsize : (copied ++ region.extract 0 (min count ramSize)).size =
        copied.size + min count ramSize := by
      rw [Array.size_append, Array.size_extract, hregion]
      omega
    rw [appendPasses, if_neg hcount, ih, hsize]
    by_cases hcopied : index < copied.size
    · rw [if_pos (by omega), if_pos hcopied, Array.getElem?_append_left hcopied]
    · rw [if_neg hcopied]
      by_cases hpass : index < copied.size + min count ramSize
      · rw [if_pos hpass, if_pos (by omega),
          getElem?_appendPass hregion copied (Nat.le_of_not_lt hcopied) hpass]
      · rw [if_neg hpass]
        by_cases hrest : index < copied.size + count
        · have hlap : index - copied.size = index - (copied.size + min count ramSize) + ramSize := by
            omega
          rw [if_pos (by omega), if_pos hrest, hlap, Nat.add_mod_right]
        · rw [if_neg (by omega), if_neg hrest]

theorem size_appendPasses {region : Array UInt8} (hregion : region.size = ramSize)
    (copied : Array UInt8) (count : Nat) :
    (appendPasses region copied count).size = copied.size + count := by
  induction copied, count using appendPasses.induct region with
  | case1 copied =>
    rw [appendPasses, if_pos rfl, Nat.add_zero]
  | case2 copied count hcount ih =>
    rw [appendPasses, if_neg hcount, ih, Array.size_append, Array.size_extract, hregion]
    omega

theorem size_readBlock (ram : VideoRam) (address : Word) (count : Nat) :
    (ram.readBlock address count).size = count := by
  have hstart := (cell address).isLt
  unfold readBlock
  dsimp only
  rw [size_appendPasses ram.bytes.size_toArray, Array.size_extract, ram.bytes.size_toArray]
  omega

theorem getElem?_readBlock (ram : VideoRam) (address : Word) {count index : Nat}
    (hindex : index < count) :
    (ram.readBlock address count)[index]? =
      some (ram.byte (addressAt (address.toNat + index))) := by
  have hstart := (cell address).isLt
  have hcell : (cell address).val = address.toNat % ramSize := rfl
  have hregion : ram.bytes.toArray.size = ramSize := ram.bytes.size_toArray
  rw [← getElem?_bytes, ← Nat.mod_add_mod, ← hcell]
  unfold readBlock
  dsimp only
  rw [getElem?_appendPasses hregion, Array.size_extract, hregion]
  by_cases hhead : index < min count (ramSize - (cell address).val)
  · have hmod : ((cell address).val + index) % ramSize = (cell address).val + index := by
      apply Nat.mod_eq_of_lt
      omega
    rw [if_pos (by omega), Array.getElem?_extract, if_pos (by omega), hmod]
  · have hlap : (cell address).val + index = index - (ramSize - (cell address).val) + ramSize := by
      omega
    have hsize : min ((cell address).val + min count (ramSize - (cell address).val)) ramSize -
        (cell address).val = ramSize - (cell address).val := by
      omega
    rw [hsize, if_neg (by omega), if_pos (by omega), hlap, Nat.add_mod_right]

/-- The bytes at successive positions, wrapping at the end of memory. -/
def bytesFrom (ram : VideoRam) (position count : Nat) : List UInt8 :=
  (List.range count).map fun index ↦ ram.byte (addressAt (position + index))

theorem bytesFrom_addressAt (ram : VideoRam) (position count : Nat) :
    ram.bytesFrom (addressAt position).toNat count = ram.bytesFrom position count := by
  unfold bytesFrom
  simp only [addressAt_add]

theorem take_bytesFrom (ram : VideoRam) (position : Nat) {count length : Nat} (h : count ≤ length) :
    (ram.bytesFrom position length).take count = ram.bytesFrom position count := by
  rw [bytesFrom, ← List.map_take, List.take_range, Nat.min_eq_left h, bytesFrom]

theorem toList_readBlock (ram : VideoRam) (address : Word) (count : Nat) :
    (ram.readBlock address count).toList = ram.bytesFrom address.toNat count := by
  apply List.ext_getElem?
  intro index
  rw [Array.getElem?_toList, bytesFrom, List.getElem?_map]
  by_cases hindex : index < count
  · rw [getElem?_readBlock ram address hindex, List.getElem?_range hindex]
    rfl
  · rw [Array.getElem?_eq_none (by rw [size_readBlock]; omega),
      List.getElem?_eq_none (by rw [List.length_range]; omega)]
    rfl

end VideoRam

end DualPlaneVideo
