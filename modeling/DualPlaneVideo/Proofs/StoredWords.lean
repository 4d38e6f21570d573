import DualPlaneVideo.Proofs.VideoRam
import DualPlaneVideo.Proofs.Word

/-!
# Words in memory

A word stands in memory as four bytes, the highest first. Words that are loaded into memory byte by
byte are read back as they were, from wherever they start, as long as they do not lap themselves.
-/

namespace DualPlaneVideo

namespace Word

/-- The byte of a word from bit `low` upwards. -/
def byteAt (word : Word) (low : Nat) : UInt8 := (word.field low 8).toUInt8

/-- The bytes of a word, the highest first. -/
def bytes (word : Word) : List UInt8 :=
  [word.byteAt 24, word.byteAt 16, word.byteAt 8, word.byteAt 0]

theorem toNat_byteAt (word : Word) (low : Nat) : (word.byteAt low).toNat = word.field low 8 := by
  rw [byteAt, Nat.toUInt8, UInt8.toNat_ofNat']
  exact Nat.mod_eq_of_lt (word.field_lt low 8)

theorem testBit_byte_of_le (byte : UInt8) {index : Nat} (h : 8 ≤ index) :
    byte.toNat.testBit index = false :=
  testBit_of_width_le (show byte.toNat < 1 <<< 8 from byte.toNat_lt) h

theorem testBit_byteAt (word : Word) (low index : Nat) :
    (word.byteAt low).toNat.testBit index = (decide (index < 8) && word.bit (low + index)) := by
  rw [toNat_byteAt, field, testBit_bitField]
  rfl

theorem byteAt_eq_of_bits {word : Word} {low : Nat} {byte : UInt8}
    (h : ∀ index < 8, word.bit (low + index) = byte.toNat.testBit index) :
    word.byteAt low = byte := by
  apply UInt8.toNat_inj.mp
  apply Nat.eq_of_testBit_eq
  intro index
  rw [testBit_byteAt]
  by_cases hindex : index < 8
  · rw [decide_eq_true hindex, Bool.true_and, h index hindex]
  · rw [decide_eq_false hindex, Bool.false_and, testBit_byte_of_le byte (Nat.le_of_not_lt hindex)]

/-- A byte that is moved to its place in a word has its bits there and no others. -/
theorem bit_shifted (byte : UInt8) (shift : Word) (hshift : shift.toNat ≤ 24) (index : Nat) :
    Word.bit (byte.toUInt32 <<< shift) index =
      (decide (shift.toNat ≤ index) && byte.toNat.testBit (index - shift.toNat)) := by
  have hmod : shift.toNat % 32 = shift.toNat := Nat.mod_eq_of_lt (by omega)
  rw [bit, UInt32.toNat_shiftLeft, hmod, UInt8.toNat_toUInt32, Nat.testBit_mod_two_pow,
    Nat.testBit_shiftLeft]
  by_cases hindex : index < 32
  · rw [decide_eq_true hindex, Bool.true_and]
  · rw [decide_eq_false hindex, Bool.false_and, testBit_byte_of_le byte (by omega), Bool.and_false]

end Word

namespace Memory

variable {memory : Memory} {address : Word}

/-- Each bit of a word that is read comes from the byte at its place, the highest byte first. -/
theorem bit_longword (memory : Memory) (address : Word) (index : Nat) :
    (memory.longword address).bit index =
      if index < 8 then (memory (address + 3)).toNat.testBit index
      else if index < 16 then (memory (address + 2)).toNat.testBit (index - 8)
      else if index < 24 then (memory (address + 1)).toNat.testBit (index - 16)
      else (memory address).toNat.testBit (index - 24) := by
  have hbyte24 : Word.bit ((memory address).toUInt32 <<< 24) index =
      (decide (24 ≤ index) && (memory address).toNat.testBit (index - 24)) :=
    Word.bit_shifted _ 24 (by decide) index
  have hbyte16 : Word.bit ((memory (address + 1)).toUInt32 <<< 16) index =
      (decide (16 ≤ index) && (memory (address + 1)).toNat.testBit (index - 16)) :=
    Word.bit_shifted _ 16 (by decide) index
  have hbyte8 : Word.bit ((memory (address + 2)).toUInt32 <<< 8) index =
      (decide (8 ≤ index) && (memory (address + 2)).toNat.testBit (index - 8)) :=
    Word.bit_shifted _ 8 (by decide) index
  have hbyte0 : Word.bit (memory (address + 3)).toUInt32 index =
      (memory (address + 3)).toNat.testBit index := by
    rw [Word.bit, UInt8.toNat_toUInt32]
  rw [longword, Word.bit_or, Word.bit_or, Word.bit_or, hbyte24, hbyte16, hbyte8, hbyte0]
  grind [Word.testBit_byte_of_le]

/-- Four bytes at successive addresses, the highest first, make up the word. -/
theorem longword_of_bytes {word : Word}
    (h24 : memory address = word.byteAt 24) (h16 : memory (address + 1) = word.byteAt 16)
    (h8 : memory (address + 2) = word.byteAt 8) (h0 : memory (address + 3) = word.byteAt 0) :
    memory.longword address = word := by
  apply Word.ext_bit
  intro index
  apply Word.bit_eq_of_lt
  intro hindex
  rw [bit_longword, h24, h16, h8, h0]
  simp only [Word.testBit_byteAt]
  grind

/-- A word is read from its four bytes, the highest first. -/
theorem bytes_longword (memory : Memory) (address : Word) :
    (memory.longword address).bytes =
      [memory address, memory (address + 1), memory (address + 2), memory (address + 3)] := by
  have hbit := bit_longword memory address
  have h24 : (memory.longword address).byteAt 24 = memory address :=
    Word.byteAt_eq_of_bits fun index hindex ↦ by grind
  have h16 : (memory.longword address).byteAt 16 = memory (address + 1) :=
    Word.byteAt_eq_of_bits fun index hindex ↦ by grind
  have h8 : (memory.longword address).byteAt 8 = memory (address + 2) :=
    Word.byteAt_eq_of_bits fun index hindex ↦ by grind
  have h0 : (memory.longword address).byteAt 0 = memory (address + 3) :=
    Word.byteAt_eq_of_bits fun index hindex ↦ by grind
  rw [Word.bytes, h24, h16, h8, h0]

end Memory

/-! ## Loading bytes -/

namespace VideoRam

variable {ram : VideoRam} {address target : Word}

theorem byte_congr (ram : VideoRam) {address target : Word} (h : cell address = cell target) :
    ram.byte address = ram.byte target :=
  congrArg (fun place ↦ ram.bytes[place]) h

theorem byte_setByte_self (ram : VideoRam) (address : Word) (value : UInt8) :
    (ram.setByte address value).byte address = value :=
  Vector.getElem_set_self (cell address).isLt

theorem byte_setByte_of_ne (ram : VideoRam) {address target : Word} (value : UInt8)
    (h : cell address ≠ cell target) : (ram.setByte address value).byte target = ram.byte target :=
  Vector.getElem_set_ne (cell address).isLt (cell target).isLt fun hcell ↦ h (Fin.ext hcell)

/-- The next address may wrap around the words, which is a multiple of memory. -/
theorem toNat_add_one_mod (address : Word) :
    (address + 1).toNat % ramSize = (address.toNat + 1) % ramSize := by
  have hone : (1 : Word).toNat = 1 := rfl
  rw [UInt32.toNat_add, hone, ramSize]
  omega

/-- The rest of a block is loaded behind its first byte. -/
theorem place_succ (address : Word) (index : Nat) :
    ((address + 1).toNat + index) % ramSize = (address.toNat + (index + 1)) % ramSize := by
  rw [Nat.add_mod, toNat_add_one_mod, ← Nat.add_mod, Nat.add_assoc, Nat.add_comm 1]

/-- What is loaded leaves the other cells as they are. -/
theorem byte_load_of_forall_ne {bytes : List UInt8}
    (h : ∀ index < bytes.length, (address.toNat + index) % ramSize ≠ target.toNat % ramSize) :
    (ram.load address bytes).byte target = ram.byte target := by
  induction bytes generalizing ram address with
  | nil => rfl
  | cons byte rest ih =>
    have hfirst : cell address ≠ cell target := fun hcell ↦
      h 0 (Nat.succ_pos _) (congrArg Fin.val hcell)
    rw [load, ih, byte_setByte_of_ne ram byte hfirst]
    intro index hindex
    rw [place_succ]
    exact h (index + 1) (Nat.succ_lt_succ hindex)

/-- In a block of a given length that is loaded at an address, the byte at `index` is the last one
that is stored at a position of memory. -/
structure IsLastStored (address : Word) (length position index : Nat) : Prop where
  index_lt : index < length
  place_eq : (address.toNat + index) % ramSize = position
  place_ne : ∀ later < length, index < later → (address.toNat + later) % ramSize ≠ position

/-- The last byte that is stored in a cell stays there. -/
theorem byte_load_of_isLastStored {bytes : List UInt8} {index : Nat}
    (h : IsLastStored address bytes.length (target.toNat % ramSize) index) :
    bytes[index]? = some ((ram.load address bytes).byte target) := by
  induction bytes generalizing ram address index with
  | nil => exact absurd h.index_lt (Nat.not_lt_zero _)
  | cons byte rest ih =>
    cases index with
    | zero =>
      have hfirst : cell target = cell address := Fin.ext h.place_eq.symm
      rw [load, byte_load_of_forall_ne, byte_congr _ hfirst, byte_setByte_self,
        List.getElem?_cons_zero]
      intro later hlater
      rw [place_succ]
      exact h.place_ne (later + 1) (Nat.succ_lt_succ hlater) (Nat.succ_pos later)
    | succ index =>
      rw [load, List.getElem?_cons_succ]
      apply ih
      refine ⟨Nat.lt_of_succ_lt_succ h.index_lt, ?_, ?_⟩
      · rw [place_succ]
        exact h.place_eq
      · intro later hlater hindex
        rw [place_succ]
        exact h.place_ne (later + 1) (Nat.succ_lt_succ hlater) (Nat.succ_lt_succ hindex)

/-- A block that does not lap itself stores every byte in a cell of its own. -/
theorem isLastStored_of_length_le {length index : Nat} (hlength : length ≤ ramSize)
    (hindex : index < length) :
    IsLastStored address length ((address.toNat + index) % ramSize) index where
  index_lt := hindex
  place_eq := rfl
  place_ne later hlater hlt := by
    simp only [ramSize] at hlength ⊢
    omega

/-- A block that does not lap itself is read back as it was loaded. -/
theorem byte_load {bytes : List UInt8} (hlength : bytes.length ≤ ramSize) {index : Nat}
    (hindex : index < bytes.length) :
    (ram.load address bytes).byte (addressAt (address.toNat + index)) = bytes[index] := by
  have hlast : IsLastStored address bytes.length
      ((addressAt (address.toNat + index)).toNat % ramSize) index := by
    rw [toNat_addressAt, Nat.mod_mod]
    exact isLastStored_of_length_le hlength hindex
  have hstored : bytes[index]? =
      some ((ram.load address bytes).byte (addressAt (address.toNat + index))) :=
    byte_load_of_isLastStored hlast
  rw [List.getElem?_eq_getElem hindex, Option.some_inj] at hstored
  exact hstored.symm

theorem bytesFrom_load {bytes : List UInt8} (hlength : bytes.length ≤ ramSize) :
    (ram.load address bytes).bytesFrom address.toNat bytes.length = bytes := by
  apply List.ext_getElem
  · rw [bytesFrom, List.length_map, List.length_range]
  · intro index _ hindex
    simp only [bytesFrom, List.getElem_map, List.getElem_range]
    exact byte_load hlength hindex

/-! ## Loading words -/

theorem bytesFrom_add (ram : VideoRam) (position first second : Nat) :
    ram.bytesFrom position (first + second) =
      ram.bytesFrom position first ++ ram.bytesFrom (position + first) second := by
  rw [bytesFrom, List.range_add, List.map_append, List.map_map]
  simp only [bytesFrom, Function.comp_def, Nat.add_assoc]

/-- A byte behind an address, wherever the sum wraps. -/
theorem byte_add (ram : VideoRam) (address : Word) (count : Nat) :
    ram.byte (address + count.toUInt32) = ram.byte (addressAt (address.toNat + count)) := by
  apply byte_congr
  apply Fin.ext
  calc
    (cell (address + count.toUInt32)).val =
        (wrapAddress (address + count.toUInt32)).toNat := (toNat_wrapAddress _).symm
    _ = (addressAt (address.toNat + count)).toNat := by rw [wrapAddress_add]
    _ = (cell (addressAt (address.toNat + count))).val := by rw [toNat_addressAt, cell_addressAt]

theorem longword_addressAt {position : Nat} {word : Word}
    (h : ram.bytesFrom position 4 = word.bytes) :
    ram.memory.longword (addressAt position) = word := by
  have hbyte (count : Nat) : ram.memory (addressAt position + count.toUInt32) =
      ram.byte (addressAt (position + count)) := by
    calc
      ram.memory (addressAt position + count.toUInt32) =
          ram.byte (addressAt ((addressAt position).toNat + count)) := byte_add ram _ count
      _ = ram.byte (addressAt (position + count)) := by rw [addressAt_add]
  simp only [bytesFrom, Word.bytes, List.range_succ, List.range_zero, List.nil_append,
    List.cons_append, List.map_cons, List.map_nil, List.cons.injEq, and_true] at h
  obtain ⟨h24, h16, h8, h0⟩ := h
  apply Memory.longword_of_bytes
  · exact h24
  · exact (hbyte 1).trans h16
  · exact (hbyte 2).trans h8
  · exact (hbyte 3).trans h0

end VideoRam

/-- The words that memory holds at successive positions. -/
def Memory.Holds (memory : Memory) (position : Nat) : List Word → Prop
  | [] => True
  | word :: rest => memory.longword (addressAt position) = word ∧ memory.Holds (position + 4) rest

namespace VideoRam

theorem holds_of_bytesFrom {ram : VideoRam} {position : Nat} {words : List Word}
    (h : ram.bytesFrom position (4 * words.length) = words.flatMap Word.bytes) :
    ram.memory.Holds position words := by
  induction words generalizing position with
  | nil => exact trivial
  | cons word rest ih =>
    have hsplit : ram.bytesFrom position 4 ++ ram.bytesFrom (position + 4) (4 * rest.length) =
        word.bytes ++ rest.flatMap Word.bytes := by
      rw [← bytesFrom_add, Nat.add_comm 4]
      exact h
    obtain ⟨hword, hrest⟩ := List.append_inj hsplit (by simp [bytesFrom, Word.bytes])
    exact ⟨longword_addressAt hword, ih hrest⟩

theorem length_flatMap_bytes (words : List Word) :
    (words.flatMap Word.bytes).length = 4 * words.length := by
  induction words with
  | nil => rfl
  | cons word rest ih =>
    rw [List.flatMap_cons, List.length_append, ih, List.length_cons]
    simp only [Word.bytes, List.length_cons, List.length_nil]
    omega

/-- Words that are loaded as bytes are read back, if they all fit in memory. -/
theorem holds_load (ram : VideoRam) (address : Word) {words : List Word}
    (hlength : 4 * words.length ≤ ramSize) :
    (ram.load address (words.flatMap Word.bytes)).memory.Holds address.toNat words := by
  have hbytes := length_flatMap_bytes words
  apply holds_of_bytesFrom
  rw [← hbytes]
  exact bytesFrom_load (by omega)

end VideoRam

end DualPlaneVideo
