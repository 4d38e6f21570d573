import DualPlaneVideo.Proofs.StoredWords
import DualPlaneVideo.Proofs.VideoUnit.Tick
import Mathlib.Data.List.Induction

/-!
# Read cursors from the bus

The bus writes a read cursor in two parts, the lower half through the video start register of the
plane's channel and the four bits above it through the display command register. Each part shows the
last value that was written to its register, so the order in which the two are written does not
matter, and no other register moves the cursor.
-/

namespace DualPlaneVideo

/-- The part of an offset that selects a register, as a mask of its bits. -/
theorem toNat_and_registerMask (offset : Word) :
    (offset &&& 0x1E).toNat = registerOffset offset := by
  apply Nat.eq_of_testBit_eq
  intro index
  have hmasked : (offset &&& 0x1E).toNat.testBit index =
      (offset.bit index && Word.bit 0x1E index) := Word.bit_and offset 0x1E index
  rw [hmasked, registerOffset]
  cases index with
  | zero => simp [Word.bit]
  | succ index =>
    have hmask : Word.bit 0x1E (index + 1) = decide (index < 4) := by
      by_cases hindex : index < 31
      · have hbits : ∀ index < 31, Word.bit 0x1E (index + 1) = decide (index < 4) := by decide
        exact hbits index hindex
      · rw [Word.bit_of_le (by omega), decide_eq_false (by omega)]
    rw [Nat.testBit_succ, Nat.mul_div_cancel_left _ Nat.two_pos, Word.field, testBit_bitField,
      hmask, Nat.add_comm 1, Bool.and_comm]
    rfl

namespace VideoUnit

variable {plane : Plane}

/-! ## The parts of a cursor -/

theorem bit_wrapAddress (address : Word) (index : Nat) :
    (wrapAddress address).bit index = (decide (index < 20) && address.bit index) := by
  rw [Word.bit, toNat_wrapAddress]
  exact Nat.testBit_mod_two_pow _ 20 _

theorem testBit_value_of_le (value : UInt16) {index : Nat} (h : 16 ≤ index) :
    value.toNat.testBit index = false :=
  testBit_of_width_le (show value.toNat < 1 <<< 16 from value.toNat_lt) h

theorem bit_withLowBits (cursor : Word) (value : UInt16) (index : Nat) :
    (withLowBits cursor value).bit index =
      if index < 16 then value.toNat.testBit index else cursor.bit index := by
  have hvalue : Word.bit value.toUInt32 index = value.toNat.testBit index := by
    rw [Word.bit, UInt16.toNat_toUInt32]
  have hmask : ∀ index < 32, Word.bit 0xFFFF0000 index = decide (16 ≤ index) := by decide
  rw [withLowBits, Word.bit_or, Word.bit_and, hvalue]
  by_cases hlow : index < 16
  · rw [if_pos hlow, hmask index (by omega), decide_eq_false (by omega), Bool.and_false,
      Bool.false_or]
  · rw [if_neg hlow, testBit_value_of_le value (by omega), Bool.or_false]
    by_cases hindex : index < 32
    · rw [hmask index hindex, decide_eq_true (by omega), Bool.and_true]
    · rw [Word.bit_of_le (by omega), Bool.false_and]

theorem bit_withHighBits (cursor : Word) (command : UInt16) (index : Nat) :
    (withHighBits cursor command).bit index =
      if index < 16 then cursor.bit index
      else decide (index < 20) && command.toNat.testBit (index - 16) := by
  have hcursor : Word.bit (cursor &&& 0xFFFF) index =
      (decide (index < 16) && cursor.bit index) := by
    have hmask : Word.bit 0xFFFF index = decide (index < 16) := Nat.testBit_two_pow_sub_one 16 index
    rw [Word.bit_and, hmask, Bool.and_comm]
  have hcommand : Word.bit ((command &&& 0xF).toUInt32 <<< 16) index =
      (decide (16 ≤ index ∧ index < 20) && command.toNat.testBit (index - 16)) := by
    have hshift : (16 : Word).toNat % 32 = 16 := rfl
    have hnibble : (command &&& 0xF).toNat = command.toNat % 2 ^ 4 := by
      rw [UInt16.toNat_and]
      exact Nat.and_two_pow_sub_one_eq_mod command.toNat 4
    rw [Word.bit, UInt32.toNat_shiftLeft, hshift, UInt16.toNat_toUInt32, hnibble,
      Nat.testBit_mod_two_pow, Nat.testBit_shiftLeft, Nat.testBit_mod_two_pow]
    grind
  rw [withHighBits, bit_wrapAddress, Word.bit_or, hcursor, hcommand]
  grind

/-- The two parts of a cursor are written independently of each other. -/
theorem withHighBits_withLowBits (cursor : Word) (value command : UInt16) :
    withHighBits (withLowBits cursor value) command =
      withLowBits (withHighBits cursor command) value := by
  apply Word.ext_bit
  intro index
  simp only [bit_withHighBits, bit_withLowBits]
  split
  · rfl
  · rfl

theorem withLowBits_withLowBits (cursor : Word) (first second : UInt16) :
    withLowBits (withLowBits cursor first) second = withLowBits cursor second := by
  apply Word.ext_bit
  intro index
  simp only [bit_withLowBits]
  split
  · rfl
  · rfl

theorem withHighBits_withHighBits (cursor : Word) (first second : UInt16) :
    withHighBits (withHighBits cursor first) second = withHighBits cursor second := by
  apply Word.ext_bit
  intro index
  simp only [bit_withHighBits]
  split
  · rfl
  · rfl

theorem testBit_toUInt16 (word : Word) (index : Nat) :
    word.toUInt16.toNat.testBit index = (decide (index < 16) && word.bit index) := by
  rw [UInt32.toNat_toUInt16, Nat.testBit_mod_two_pow]
  rfl

theorem toUInt16_withLowBits (cursor : Word) (value : UInt16) :
    (withLowBits cursor value).toUInt16 = value := by
  apply UInt16.toNat_inj.mp
  apply Nat.eq_of_testBit_eq
  intro index
  rw [testBit_toUInt16, bit_withLowBits]
  by_cases hindex : index < 16
  · rw [if_pos hindex, decide_eq_true hindex, Bool.true_and]
  · rw [decide_eq_false hindex, Bool.false_and, testBit_value_of_le value (by omega)]

theorem toUInt16_withHighBits (cursor : Word) (command : UInt16) :
    (withHighBits cursor command).toUInt16 = cursor.toUInt16 := by
  apply UInt16.toNat_inj.mp
  apply Nat.eq_of_testBit_eq
  intro index
  rw [testBit_toUInt16, testBit_toUInt16, bit_withHighBits]
  by_cases hindex : index < 16
  · rw [if_pos hindex]
  · rw [decide_eq_false hindex, Bool.false_and, Bool.false_and]

theorem field_withLowBits (cursor : Word) (value : UInt16) :
    (withLowBits cursor value).field 16 4 = cursor.field 16 4 := by
  apply Word.field_congr
  intro index _
  rw [bit_withLowBits, if_neg (by omega)]

theorem field_withHighBits (cursor : Word) (command : UInt16) :
    (withHighBits cursor command).field 16 4 = command.toNat % 16 := by
  apply Nat.eq_of_testBit_eq
  intro index
  have hbit := bit_withHighBits cursor command (16 + index)
  rw [Word.bit, if_neg (by omega), Nat.add_sub_cancel_left] at hbit
  rw [Word.field, testBit_bitField, hbit]
  change _ = (command.toNat % 2 ^ 4).testBit index
  rw [Nat.testBit_mod_two_pow]
  by_cases hindex : index < 4
  · rw [decide_eq_true (by omega : 16 + index < 20), Bool.true_and]
  · rw [decide_eq_false hindex, Bool.false_and, Bool.false_and]

/-! ## One write -/

/-- The offset of the video start register of a plane's channel. -/
def lowBitsOffset : Plane → Word
  | .a => 0x14
  | .b => 0x04

/-- The offset of the display command register of a plane's channel. -/
def highBitsOffset : Plane → Word
  | .a => 0x12
  | .b => 0x02

theorem lowBitsOffset_ne_highBitsOffset (plane target : Plane) :
    lowBitsOffset plane ≠ highBitsOffset target := by
  cases plane <;> cases target <;> decide

theorem lowBitsPlane?_eq_some_iff {offset : Word} :
    lowBitsPlane? offset = some plane ↔ offset &&& 0x1E = lowBitsOffset plane := by
  rw [← UInt32.toNat_inj, toNat_and_registerMask]
  unfold lowBitsPlane?
  cases plane <;> split <;> simp_all [lowBitsOffset]

theorem ofOffset?_eq_displayCommand_iff {offset : Word} :
    SystemRegister.ofOffset? offset = some (.displayCommand plane) ↔
      offset &&& 0x1E = highBitsOffset plane := by
  rw [← UInt32.toNat_inj, toNat_and_registerMask]
  unfold SystemRegister.ofOffset?
  cases plane <;> split <;> simp_all [highBitsOffset]

theorem highBitsPlane?_eq_some_iff {offset : Word} :
    highBitsPlane? offset = some plane ↔ offset &&& 0x1E = highBitsOffset plane := by
  rw [← ofOffset?_eq_displayCommand_iff, highBitsPlane?]
  split
  · rename_i target htarget
    rw [htarget]
    simp
  · rename_i hother
    exact iff_of_false (by simp) (hother plane)

theorem get_readCursors_of_lowBits (unit : VideoUnit) {offset : Word}
    (h : offset &&& 0x1E = lowBitsOffset plane) (value : UInt16) :
    (unit.writeRegister offset value).readCursors.get plane =
      withLowBits (unit.readCursors.get plane) value := by
  rw [writeRegister, lowBitsPlane?_eq_some_iff.mpr h]
  exact PerPlane.get_set_self _ plane _

theorem get_readCursors_of_highBits (unit : VideoUnit) {offset : Word}
    (h : offset &&& 0x1E = highBitsOffset plane) (command : UInt16) :
    (unit.writeRegister offset command).readCursors.get plane =
      withHighBits (unit.readCursors.get plane) command := by
  have hlow : lowBitsPlane? offset = none := by
    apply Option.eq_none_iff_forall_ne_some.mpr
    intro target htarget
    rw [lowBitsPlane?_eq_some_iff, h] at htarget
    exact lowBitsOffset_ne_highBitsOffset target plane htarget.symm
  rw [writeRegister, hlow, highBitsPlane?_eq_some_iff.mpr h]
  exact PerPlane.get_set_self _ plane _

/-- No other register moves the cursor. -/
theorem get_readCursors_of_other (unit : VideoUnit) {offset : Word}
    (hlow : offset &&& 0x1E ≠ lowBitsOffset plane) (hhigh : offset &&& 0x1E ≠ highBitsOffset plane)
    (value : UInt16) :
    (unit.writeRegister offset value).readCursors.get plane = unit.readCursors.get plane := by
  have huntouched : ¬ (Access.writeRegister offset value).Touches plane := by
    rw [Access.Touches, lowBitsPlane?_eq_some_iff, highBitsPlane?_eq_some_iff]
    exact not_or.mpr ⟨hlow, hhigh⟩
  exact get_readCursors_access huntouched

/-! ## Any number of writes -/

/-- A write from the bus to the system registers. -/
structure RegisterWrite where
  offset : Word
  value : UInt16

def writeAll (unit : VideoUnit) (writes : List RegisterWrite) : VideoUnit :=
  writes.foldl (fun unit write ↦ unit.writeRegister write.offset write.value) unit

/-- The value that is written last to the register at an offset or at one of its aliases. -/
def lastValue? (register : Word) (writes : List RegisterWrite) : Option UInt16 :=
  ((writes.filter fun write ↦ write.offset &&& 0x1E == register).getLast?).map RegisterWrite.value

theorem lastValue?_append_singleton (register : Word) (writes : List RegisterWrite)
    (write : RegisterWrite) :
    lastValue? register (writes ++ [write]) =
      if write.offset &&& 0x1E = register then some write.value
      else lastValue? register writes := by
  unfold lastValue?
  by_cases hwrite : write.offset &&& 0x1E = register
  · simp [hwrite]
  · simp [hwrite]

theorem lastValue?_of_forall_ne {register : Word} {writes : List RegisterWrite}
    (h : ∀ write ∈ writes, write.offset &&& 0x1E ≠ register) :
    lastValue? register writes = none := by
  unfold lastValue?
  rw [List.filter_eq_nil_iff.mpr]
  · rfl
  · intro write hwrite
    simpa using h write hwrite

/-- The cursor with each part that has a new value. -/
def withParts (cursor : Word) (low? high? : Option UInt16) : Word :=
  let raised := high?.elim cursor (withHighBits cursor)
  low?.elim raised (withLowBits raised)

theorem withLowBits_withParts (cursor : Word) (low? high? : Option UInt16) (value : UInt16) :
    withLowBits (withParts cursor low? high?) value = withParts cursor (some value) high? := by
  cases low? with
  | none => rfl
  | some low => exact withLowBits_withLowBits _ low value

theorem withHighBits_withParts (cursor : Word) (low? high? : Option UInt16) (command : UInt16) :
    withHighBits (withParts cursor low? high?) command = withParts cursor low? (some command) := by
  have hraised : withHighBits (high?.elim cursor (withHighBits cursor)) command =
      withHighBits cursor command := by
    cases high? with
    | none => rfl
    | some high => exact withHighBits_withHighBits cursor high command
  cases low? with
  | none => exact hraised
  | some low =>
    calc
      withHighBits (withParts cursor (some low) high?) command =
          withLowBits (withHighBits (high?.elim cursor (withHighBits cursor)) command) low :=
        withHighBits_withLowBits _ low command
      _ = withParts cursor (some low) (some command) := by
        rw [hraised]
        rfl

/-- After any writes a cursor shows in each part the last value of its register. -/
theorem get_readCursors_writeAll (unit : VideoUnit) (writes : List RegisterWrite) (plane : Plane) :
    (unit.writeAll writes).readCursors.get plane =
      withParts (unit.readCursors.get plane) (lastValue? (lowBitsOffset plane) writes)
        (lastValue? (highBitsOffset plane) writes) := by
  induction writes using List.reverseRecOn with
  | nil => rfl
  | append_singleton writes write ih =>
    have hstep : unit.writeAll (writes ++ [write]) =
        (unit.writeAll writes).writeRegister write.offset write.value := by
      rw [writeAll, List.foldl_append]
      rfl
    rw [hstep, lastValue?_append_singleton, lastValue?_append_singleton]
    by_cases hlow : write.offset &&& 0x1E = lowBitsOffset plane
    · have hhigh : write.offset &&& 0x1E ≠ highBitsOffset plane := by
        rw [hlow]
        exact lowBitsOffset_ne_highBitsOffset plane plane
      rw [if_pos hlow, if_neg hhigh, get_readCursors_of_lowBits _ hlow, ih, withLowBits_withParts]
    · rw [if_neg hlow]
      by_cases hhigh : write.offset &&& 0x1E = highBitsOffset plane
      · rw [if_pos hhigh, get_readCursors_of_highBits _ hhigh, ih, withHighBits_withParts]
      · rw [if_neg hhigh, get_readCursors_of_other _ hlow hhigh, ih]

theorem toUInt16_withParts (cursor : Word) (low? high? : Option UInt16) :
    (withParts cursor low? high?).toUInt16 = low?.getD cursor.toUInt16 := by
  cases low? with
  | some low => exact toUInt16_withLowBits _ low
  | none =>
    cases high? with
    | none => rfl
    | some high => exact toUInt16_withHighBits cursor high

theorem field_withParts (cursor : Word) (low? high? : Option UInt16) :
    (withParts cursor low? high?).field 16 4 =
      (high?.map fun high ↦ high.toNat % 16).getD (cursor.field 16 4) := by
  have hraised : (high?.elim cursor (withHighBits cursor)).field 16 4 =
      (high?.map fun high ↦ high.toNat % 16).getD (cursor.field 16 4) := by
    cases high? with
    | none => rfl
    | some high => exact field_withHighBits cursor high
  cases low? with
  | none => exact hraised
  | some low => exact (field_withLowBits _ low).trans hraised

theorem readRegister_of_lowBits (unit : VideoUnit) {offset : Word}
    (h : offset &&& 0x1E = lowBitsOffset plane) :
    unit.readRegister offset = ((unit.readCursors.get plane).toUInt16, unit) := by
  rw [readRegister, lowBitsPlane?_eq_some_iff.mpr h]

/-- After any writes to the system registers, the four upper bits of a read cursor are the low bits
of the last value written to the display command register of the plane's channel, and its lower half
is the last value written to the video start register; a part without such a write stays. So neither
the order in which the two registers are written nor any other write counts, and the video start
register reads as the lower half. -/
theorem writes_compose_read_cursor (unit : VideoUnit) (writes : List RegisterWrite)
    (plane : Plane) :
    let before := unit.readCursors.get plane
    let after := (unit.writeAll writes).readCursors.get plane
    after.field 16 4 =
        ((lastValue? (highBitsOffset plane) writes).map fun command ↦ command.toNat % 16).getD
          (before.field 16 4) ∧
      after.toUInt16 = (lastValue? (lowBitsOffset plane) writes).getD before.toUInt16 ∧
      (∀ others : List RegisterWrite,
        lastValue? (highBitsOffset plane) others = lastValue? (highBitsOffset plane) writes →
        lastValue? (lowBitsOffset plane) others = lastValue? (lowBitsOffset plane) writes →
        (unit.writeAll others).readCursors.get plane = after) ∧
      ((∀ write ∈ writes, write.offset &&& 0x1E ≠ highBitsOffset plane ∧
          write.offset &&& 0x1E ≠ lowBitsOffset plane) → after = before) ∧
      ∀ offset, offset &&& 0x1E = lowBitsOffset plane →
        (unit.writeAll writes).readRegister offset = (after.toUInt16, unit.writeAll writes) := by
  intro before after
  have hafter : after = withParts before (lastValue? (lowBitsOffset plane) writes)
      (lastValue? (highBitsOffset plane) writes) := get_readCursors_writeAll unit writes plane
  refine ⟨?_, ?_, ?_, ?_, ?_⟩
  · rw [hafter, field_withParts]
  · rw [hafter, toUInt16_withParts]
  · intro others hhigh hlow
    rw [hafter, get_readCursors_writeAll, hhigh, hlow]
  · intro hother
    rw [hafter, lastValue?_of_forall_ne fun write hwrite ↦ (hother write hwrite).1,
      lastValue?_of_forall_ne fun write hwrite ↦ (hother write hwrite).2]
    rfl
  · intro offset hoffset
    exact readRegister_of_lowBits _ hoffset

/-- Writes to both channels, some of them through aliases of the offsets. -/
def crossedWrites : List RegisterWrite :=
  [⟨0x35, 0x1234⟩, ⟨0x12, 0x0005⟩, ⟨0x04, 0xABCD⟩, ⟨0x33, 0x8007⟩, ⟨0x02, 0x0009⟩]

/-- The registers of channel A in the other order, and none of channel B. -/
def turnedWrites : List RegisterWrite := [⟨0x12, 0x8007⟩, ⟨0x10, 0x0001⟩, ⟨0x14, 0x1234⟩]

theorem writes_compose_read_cursor_in_other_order :
    let unit := initial default
    lastValue? (highBitsOffset .a) turnedWrites = lastValue? (highBitsOffset .a) crossedWrites ∧
      lastValue? (lowBitsOffset .a) turnedWrites = lastValue? (lowBitsOffset .a) crossedWrites ∧
      (∀ write ∈ turnedWrites, write.offset &&& 0x1E ≠ highBitsOffset .b ∧
        write.offset &&& 0x1E ≠ lowBitsOffset .b) ∧
      (unit.writeAll crossedWrites).readCursors = ⟨0x71234, 0x9ABCD⟩ ∧
      (unit.writeAll turnedWrites).readCursors.get .a =
        (unit.writeAll crossedWrites).readCursors.get .a ∧
      (unit.writeAll turnedWrites).readCursors.get .b = unit.readCursors.get .b ∧
      ((unit.writeAll crossedWrites).readRegister 0x35).1 = 0x1234 := by
  intro unit
  have hhigh : lastValue? (highBitsOffset .a) turnedWrites =
      lastValue? (highBitsOffset .a) crossedWrites := by decide
  have hlow : lastValue? (lowBitsOffset .a) turnedWrites =
      lastValue? (lowBitsOffset .a) crossedWrites := by decide
  have hother : ∀ write ∈ turnedWrites, write.offset &&& 0x1E ≠ highBitsOffset .b ∧
      write.offset &&& 0x1E ≠ lowBitsOffset .b := by
    simp only [turnedWrites, List.forall_mem_cons]
    decide
  obtain ⟨-, -, horder, -, hread⟩ := writes_compose_read_cursor unit crossedWrites .a
  obtain ⟨-, -, -, hunmoved, -⟩ := writes_compose_read_cursor unit turnedWrites .b
  have hsame := horder turnedWrites hhigh hlow
  refine ⟨hhigh, hlow, hother, by decide +kernel, hsame, hunmoved hother, ?_⟩
  rw [hread 0x35 (by decide)]
  decide +kernel

end VideoUnit

end DualPlaneVideo
