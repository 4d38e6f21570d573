import DualPlaneVideo.Proofs.StoredWords
import Mathlib.Data.Nat.Find

/-!
# Loaded blocks

A block may be of any length, so it may lap itself: a cell then shows the last of the bytes that are
stored in it, and the cells that no byte reaches are as they were. A block that does not lap itself
is copied back as it was loaded, and words are read from wherever it holds their bytes.
-/

namespace DualPlaneVideo

namespace VideoRam

variable {ram : VideoRam} {address : Word}

theorem byte_addressAt (ram : VideoRam) (position : Fin ramSize) :
    ram.byte (addressAt position) = ram.bytes[position] := by
  have hcell : cell (addressAt position) = position := by
    apply Fin.ext
    rw [cell_addressAt, Nat.mod_eq_of_lt position.isLt]
  exact congrArg (fun place ↦ ram.bytes[place]) hcell

/-- If bytes are stored in a cell at all, one of them is the last. -/
theorem exists_isLastStored {length position index : Nat} (hindex : index < length)
    (hplace : (address.toNat + index) % ramSize = position) :
    ∃ last, IsLastStored address length position last := by
  let stores (index : Nat) : Prop :=
    index < length ∧ (address.toNat + index) % ramSize = position
  have hlast : stores (Nat.findGreatest stores length) :=
    Nat.findGreatest_spec (Nat.le_of_lt hindex) ⟨hindex, hplace⟩
  refine ⟨Nat.findGreatest stores length, hlast.1, hlast.2, ?_⟩
  intro later hlater hbehind hstored
  exact Nat.findGreatest_is_greatest hbehind (Nat.le_of_lt hlater) ⟨hlater, hstored⟩

/-- A cell shows the last byte that is stored in it, or what it held before if there is none. -/
theorem bytes_load (ram : VideoRam) (address : Word) (bytes : List UInt8)
    (position : Fin ramSize) :
    (∃ index, IsLastStored address bytes.length position index ∧
      bytes[index]? = some (ram.load address bytes).bytes[position]) ∨
    (∀ index < bytes.length, (address.toNat + index) % ramSize ≠ position) ∧
      (ram.load address bytes).bytes[position] = ram.bytes[position] := by
  have hposition : (addressAt position).toNat % ramSize = position := by
    rw [toNat_addressAt, Nat.mod_mod, Nat.mod_eq_of_lt position.isLt]
  rw [← byte_addressAt, ← byte_addressAt]
  by_cases hstores : ∃ index < bytes.length, (address.toNat + index) % ramSize = position
  · obtain ⟨index, hindex, hplace⟩ := hstores
    obtain ⟨last, hlast⟩ := exists_isLastStored hindex hplace
    refine Or.inl ⟨last, hlast, byte_load_of_isLastStored ?_⟩
    rwa [hposition]
  · have hunreached (index : Nat) (hindex : index < bytes.length) :
        (address.toNat + index) % ramSize ≠ position := fun hplace ↦
      hstores ⟨index, hindex, hplace⟩
    refine Or.inr ⟨hunreached, byte_load_of_forall_ne ?_⟩
    rwa [hposition]

theorem toList_readBlock_load {bytes : List UInt8} (hlength : bytes.length ≤ ramSize) :
    ((ram.load address bytes).readBlock address bytes.length).toList = bytes := by
  rw [toList_readBlock, bytesFrom_load hlength]

/-- A word is made up of the loaded bytes that stand at its four addresses. -/
theorem bytes_longword_load {bytes : List UInt8} (hlength : bytes.length ≤ ramSize) {target : Word}
    {indices : Fin 4 → Fin bytes.length}
    (hplaces : ∀ place : Fin 4,
      (target.toNat + place) % ramSize = (address.toNat + indices place) % ramSize) :
    ((ram.load address bytes).memory.longword target).bytes =
      List.ofFn fun place ↦ bytes[indices place] := by
  have hbyte (place : Fin 4) : (ram.load address bytes).memory (target + place.val.toUInt32) =
      bytes[indices place] := by
    have hsame : addressAt (target.toNat + place) = addressAt (address.toNat + indices place) := by
      rw [addressAt, addressAt, hplaces place]
    calc
      (ram.load address bytes).memory (target + place.val.toUInt32) =
          (ram.load address bytes).byte (addressAt (target.toNat + place)) :=
        byte_add _ target place
      _ = bytes[indices place] := by
        rw [hsame]
        exact byte_load hlength (indices place).isLt
  have h24 : (ram.load address bytes).memory target = bytes[indices 0] := by
    rw [← hbyte 0]
    exact congrArg _ (UInt32.add_zero target).symm
  have h16 : (ram.load address bytes).memory (target + 1) = bytes[indices 1] := hbyte 1
  have h8 : (ram.load address bytes).memory (target + 2) = bytes[indices 2] := hbyte 2
  have h0 : (ram.load address bytes).memory (target + 3) = bytes[indices 3] := hbyte 3
  rw [Memory.bytes_longword, h24, h16, h8, h0]
  rfl

/-- Loading a block stores its bytes one after the other, wrapping at the end of memory: a cell
shows the last byte that is stored in it, or what it held before if there is none. A block that is
not longer than memory is copied back as it was loaded, and a word is read from any four of its bytes
that stand at successive addresses. -/
theorem load_keeps_last_stored (ram : VideoRam) (address : Word) (bytes : List UInt8) :
    (∀ position : Fin ramSize,
      (∃ index, IsLastStored address bytes.length position index ∧
        bytes[index]? = some (ram.load address bytes).bytes[position]) ∨
      (∀ index < bytes.length, (address.toNat + index) % ramSize ≠ position) ∧
        (ram.load address bytes).bytes[position] = ram.bytes[position]) ∧
    (bytes.length ≤ ramSize →
      ((ram.load address bytes).readBlock address bytes.length).toList = bytes ∧
      ∀ (target : Word) (indices : Fin 4 → Fin bytes.length),
        (∀ place : Fin 4,
          (target.toNat + place) % ramSize = (address.toNat + indices place) % ramSize) →
        ((ram.load address bytes).memory.longword target).bytes =
          List.ofFn fun place ↦ bytes[indices place]) := by
  refine ⟨bytes_load ram address bytes, fun hlength ↦ ⟨toList_readBlock_load hlength, ?_⟩⟩
  intro target indices hplaces
  exact bytes_longword_load hlength hplaces

/-- Four bytes over the end of memory are copied back, and read as a word through another address of
the same cell. -/
theorem load_keeps_last_stored_over_end :
    let loaded := zeroed.load 0xFFFFE [0x12, 0x34, 0x56, 0x78]
    ([0x12, 0x34, 0x56, 0x78] : List UInt8).length ≤ ramSize ∧
      (∀ place : Fin 4,
        ((0x1FFFFE : Word).toNat + place) % ramSize = ((0xFFFFE : Word).toNat + place) % ramSize) ∧
      (loaded.readBlock 0xFFFFE 4).toList = [0x12, 0x34, 0x56, 0x78] ∧
      (loaded.memory.longword 0x1FFFFE).bytes = [0x12, 0x34, 0x56, 0x78] := by
  have hplaces : ∀ place : Fin 4,
      ((0x1FFFFE : Word).toNat + place) % ramSize = ((0xFFFFE : Word).toNat + place) % ramSize := by
    decide
  obtain ⟨-, hread⟩ := load_keeps_last_stored zeroed 0xFFFFE [0x12, 0x34, 0x56, 0x78]
  obtain ⟨hblock, hwords⟩ := hread (by decide)
  exact ⟨by decide, hplaces, hblock, hwords 0x1FFFFE id hplaces⟩

end VideoRam

end DualPlaneVideo
