import DualPlaneVideo.Line.DeltaYuv
import DualPlaneVideo.Line.DirectColor
import DualPlaneVideo.Line.RunLength
import Mathlib.Tactic.Common

/-!
# What a line decoder reads

A line decoder tells how many bytes it has taken from the front of its source. For each decoder the
count is exact: it never passes the end of the source, the result is settled by the counted bytes,
and a source that is cut before the count is too short. Two bytes for each pixel are always enough.
-/

namespace DualPlaneVideo

/-- The reader succeeds on every source of at least `bound` bytes, and its count, which `bound`
limits, tells exactly which bytes of the source decide the result. -/
structure ReadsExactly {α : Type} (bound : Nat) (count : α → Nat)
    (read : List UInt8 → Except Failure α) : Prop where
  isOk : ∀ {source}, bound ≤ source.length → ∃ value, read source = .ok value
  count_le_bound : ∀ {source value}, read source = .ok value → count value ≤ bound
  count_le_length : ∀ {source value}, read source = .ok value → count value ≤ source.length
  eq_of_take_eq : ∀ {source other value}, read source = .ok value →
    other.take (count value) = source.take (count value) → read other = .ok value
  exhausted_of_lt : ∀ {source value cut}, read source = .ok value → cut < count value →
    read (source.take cut) = .error .sourceExhausted

theorem except_map_eq_ok_iff {α β : Type} {result : Except Failure α} {f : α → β} {value : β} :
    result.map f = .ok value ↔ ∃ inner, result = .ok inner ∧ f inner = value := by
  cases result <;> simp [Except.map]

theorem except_map_eq_error_iff {α β : Type} {result : Except Failure α} {f : α → β}
    {failure : Failure} : result.map f = .error failure ↔ result = .error failure := by
  cases result <;> simp [Except.map]

theorem takeBytes_eq_ok_iff {count : Nat} {source bytes : List UInt8} :
    takeBytes count source = .ok bytes ↔ count ≤ source.length ∧ source.take count = bytes := by
  unfold takeBytes
  by_cases h : count ≤ source.length <;> simp [h]

theorem takeBytes_eq_error {count : Nat} {source : List UInt8} (h : source.length < count) :
    takeBytes count source = .error .sourceExhausted := by
  rw [takeBytes, if_neg (by omega)]

/-- Whoever agrees with a source on its first bytes is as long as they are. -/
theorem le_length_of_take_eq {count : Nat} {source other : List UInt8}
    (h : count ≤ source.length) (agree : other.take count = source.take count) :
    count ≤ other.length := by
  have hlength := congrArg List.length agree
  simp only [List.length_take] at hlength
  omega

theorem readsExactly_takeBytes (count : Nat) :
    ReadsExactly count (fun _ ↦ count) (takeBytes count) where
  isOk h := ⟨_, takeBytes_eq_ok_iff.mpr ⟨h, rfl⟩⟩
  count_le_bound _ := Nat.le_refl _
  count_le_length h := (takeBytes_eq_ok_iff.mp h).1
  eq_of_take_eq h agree := by
    obtain ⟨hlength, rfl⟩ := takeBytes_eq_ok_iff.mp h
    exact takeBytes_eq_ok_iff.mpr ⟨le_length_of_take_eq hlength agree, agree⟩
  exhausted_of_lt _ hcut := by
    apply takeBytes_eq_error
    rw [List.length_take]
    omega

namespace ReadsExactly

variable {α β : Type} {bound : Nat} {count : α → Nat} {read : List UInt8 → Except Failure α}

/-- A function of the value that carries the count along leaves the reading as it is. -/
theorem map (h : ReadsExactly bound count read) (f : α → β) (countOf : β → Nat)
    (hcount : ∀ value, countOf (f value) = count value) :
    ReadsExactly bound countOf (fun source ↦ (read source).map f) where
  isOk hlength := by
    obtain ⟨value, hread⟩ := h.isOk hlength
    exact ⟨f value, by rw [hread]; rfl⟩
  count_le_bound hread := by
    obtain ⟨inner, hinner, rfl⟩ := except_map_eq_ok_iff.mp hread
    rw [hcount]
    exact h.count_le_bound hinner
  count_le_length hread := by
    obtain ⟨inner, hinner, rfl⟩ := except_map_eq_ok_iff.mp hread
    rw [hcount]
    exact h.count_le_length hinner
  eq_of_take_eq hread agree := by
    obtain ⟨inner, hinner, rfl⟩ := except_map_eq_ok_iff.mp hread
    rw [hcount] at agree
    rw [h.eq_of_take_eq hinner agree]
    rfl
  exhausted_of_lt hread hcut := by
    obtain ⟨inner, hinner, rfl⟩ := except_map_eq_ok_iff.mp hread
    rw [hcount] at hcut
    rw [h.exhausted_of_lt hinner hcut]
    rfl

/-- A reading that fails has run out of bytes. -/
theorem eq_exhausted (h : ReadsExactly bound count read) {source : List UInt8} {failure : Failure}
    (herror : read source = .error failure) : failure = .sourceExhausted := by
  -- With more bytes behind the source it would succeed, and so the source is cut before the count.
  let longer := source ++ List.replicate bound 0
  have hlong : bound ≤ longer.length := by
    rw [List.length_append, List.length_replicate]
    exact Nat.le_add_left bound source.length
  obtain ⟨value, hread⟩ := h.isOk hlong
  have hshort : source.length < count value := by
    apply Nat.lt_of_not_le
    intro henough
    rw [h.eq_of_take_eq hread (List.take_append_of_le_length henough).symm] at herror
    cases herror
  have hcut := h.exhausted_of_lt hread hshort
  rw [List.take_left, herror] at hcut
  exact Except.error.inj hcut

/-- A larger bound is a bound. -/
theorem mono {larger : Nat} (h : ReadsExactly bound count read) (hle : bound ≤ larger) :
    ReadsExactly larger count read where
  isOk hlength := h.isOk (Nat.le_trans hle hlength)
  count_le_bound hread := Nat.le_trans (h.count_le_bound hread) hle
  count_le_length := h.count_le_length
  eq_of_take_eq := h.eq_of_take_eq
  exhausted_of_lt := h.exhausted_of_lt

end ReadsExactly

/-! ## Codings of fixed length -/

theorem le_two_mul_pairCount (width : Nat) : width ≤ 2 * pairCount width := by
  unfold pairCount
  omega

theorem pairCount_le (width : Nat) : pairCount width ≤ width := by
  unfold pairCount
  omega

theorem codeBytes_le (nibbles : Bool) (width : Nat) : codeBytes nibbles width ≤ width := by
  cases nibbles with
  | false => exact Nat.le_refl width
  | true => exact pairCount_le width

theorem readsExactly_decodeIndexed (palette : Palette) (view : PaletteView) (nibbles : Bool)
    (width : Nat) :
    ReadsExactly (2 * width) DecodedLine.consumed
      (decodeIndexed palette view nibbles width) := by
  have hle : codeBytes nibbles width ≤ 2 * width := by
    calc
      codeBytes nibbles width ≤ width := codeBytes_le nibbles width
      _ ≤ 2 * width := Nat.le_mul_of_pos_left width Nat.two_pos
  have hmap := (readsExactly_takeBytes (codeBytes nibbles width)).map
    (fun bytes ↦
      let codes := if nibbles then (bytes.flatMap nibblesOf).take width else bytes
      (⟨codes.map (view.color palette), codeBytes nibbles width⟩ : DecodedLine))
    DecodedLine.consumed (fun _ ↦ rfl)
  exact hmap.mono hle

theorem readsExactly_decodeDeltaYuv (seed : Yuv) (width : Nat) :
    ReadsExactly (2 * width) DecodedLine.consumed (decodeDeltaYuv seed width) := by
  have hle : 2 * pairCount width ≤ 2 * width := by
    apply Nat.mul_le_mul_left
    exact pairCount_le width
  have hmap := (readsExactly_takeBytes (2 * pairCount width)).map
    (fun bytes ↦
      (⟨((seed.pixels bytes).take width).map Yuv.toColor, 2 * pairCount width⟩ : DecodedLine))
    DecodedLine.consumed (fun _ ↦ rfl)
  exact hmap.mono hle

theorem length_flatMap_nibblesOf (bytes : List UInt8) :
    (bytes.flatMap nibblesOf).length = 2 * bytes.length := by
  induction bytes with
  | nil => rfl
  | cons byte bytes ih =>
    calc
      ((byte :: bytes).flatMap nibblesOf).length = 2 + (bytes.flatMap nibblesOf).length := by
        rw [List.flatMap_cons, List.length_append]
        rfl
      _ = 2 + 2 * bytes.length := by rw [ih]
      _ = 2 * (byte :: bytes).length := by
        rw [List.length_cons]
        omega

theorem length_decodeIndexed {palette : Palette} {view : PaletteView} {nibbles : Bool}
    {width : Nat} {source : List UInt8} {line : DecodedLine}
    (h : decodeIndexed palette view nibbles width source = .ok line) :
    line.pixels.length = width := by
  obtain ⟨bytes, hbytes, rfl⟩ := except_map_eq_ok_iff.mp h
  obtain ⟨hlength, rfl⟩ := takeBytes_eq_ok_iff.mp hbytes
  cases nibbles with
  | false =>
    simp only [Bool.false_eq_true, if_false, List.length_map, List.length_take, codeBytes] at *
    omega
  | true =>
    have := le_two_mul_pairCount width
    simp only [if_true, List.length_map, List.length_take, length_flatMap_nibblesOf,
      codeBytes] at *
    omega

/-- Every whole pair of bytes gives two pixels. -/
theorem Yuv.length_pixels (last : Yuv) (bytes : List UInt8) :
    (last.pixels bytes).length = 2 * (bytes.length / 2) := by
  match bytes with
  | [] => rfl
  | [_] => simp [Yuv.pixels]
  | high :: low :: rest =>
    rw [Yuv.pixels, List.length_cons, List.length_cons, Yuv.length_pixels]
    simp only [List.length_cons]
    omega

theorem length_decodeDeltaYuv {seed : Yuv} {width : Nat} {source : List UInt8}
    {line : DecodedLine} (h : decodeDeltaYuv seed width source = .ok line) :
    line.pixels.length = width := by
  obtain ⟨bytes, hbytes, rfl⟩ := except_map_eq_ok_iff.mp h
  obtain ⟨hlength, rfl⟩ := takeBytes_eq_ok_iff.mp hbytes
  have := le_two_mul_pairCount width
  simp only [List.length_map, List.length_take, Yuv.length_pixels]
  omega

/-- Direct color takes one byte for each pixel from either source. -/
theorem decodeDirectColor_eq_ok_iff {width : Nat} {high low : List UInt8} {line : DecodedLine} :
    decodeDirectColor width high low = .ok line ↔
      width ≤ high.length ∧ width ≤ low.length ∧
        ⟨List.zipWith directColor (high.take width) (low.take width), width⟩ = line := by
  unfold decodeDirectColor takeBytes
  by_cases hhigh : width ≤ high.length
  · by_cases hlow : width ≤ low.length <;>
      simp [hhigh, hlow, bind, Except.bind, pure, Except.pure]
  · simp [hhigh, bind, Except.bind]

theorem decodeDirectColor_eq_error {width : Nat} {high low : List UInt8}
    (h : high.length < width ∨ low.length < width) :
    decodeDirectColor width high low = .error .sourceExhausted := by
  unfold decodeDirectColor takeBytes
  by_cases hhigh : width ≤ high.length
  · have hlow : ¬ width ≤ low.length := by omega
    simp [hhigh, hlow, bind, Except.bind]
  · simp [hhigh, bind, Except.bind]

theorem decodeDirectColor_error {width : Nat} {high low : List UInt8} {failure : Failure}
    (h : decodeDirectColor width high low = .error failure) : failure = .sourceExhausted := by
  by_cases hlength : width ≤ high.length ∧ width ≤ low.length
  · rw [decodeDirectColor_eq_ok_iff.mpr ⟨hlength.1, hlength.2, rfl⟩] at h
    cases h
  · rw [decodeDirectColor_eq_error (by omega)] at h
    exact (Except.error.inj h).symm

theorem length_decodeDirectColor {width : Nat} {high low : List UInt8} {line : DecodedLine}
    (h : decodeDirectColor width high low = .ok line) : line.pixels.length = width := by
  obtain ⟨hhigh, hlow, rfl⟩ := decodeDirectColor_eq_ok_iff.mp h
  simp only [List.length_zipWith, List.length_take]
  omega

/-! ## Run-length codings -/

namespace RunForm

variable (form : RunForm) (byte : UInt8)

theorem length_codes_pos : 0 < (form.codes byte).length := by
  cases form <;> exact Nat.zero_lt_succ _

theorem length_expand (count room : Nat) :
    (form.expand byte count room).length = min room (count * (form.codes byte).length) := by
  simp [expand, List.length_flatten]

theorem length_expand_le (count room : Nat) : (form.expand byte count room).length ≤ room := by
  rw [length_expand]
  exact Nat.min_le_left _ _

theorem length_expand_pos {count room : Nat} (hcount : 0 < count) (hroom : 0 < room) :
    0 < (form.expand byte count room).length := by
  rw [length_expand]
  exact Nat.lt_min.mpr ⟨hroom, Nat.mul_pos hcount (form.length_codes_pos byte)⟩

theorem repeats_pos (count : UInt8) {room : Nat} (hroom : 0 < room) : 0 < repeats count room := by
  unfold repeats
  split
  · exact hroom
  · rename_i hcount
    exact Nat.pos_of_ne_zero fun h ↦ hcount (UInt8.toNat_inj.mp h)

/-- The line goes on behind a run with a count. -/
theorem lineCodes_counted {form : RunForm} {byte count : UInt8} {rest : List UInt8} {room : Nat}
    (hroom : room ≠ 0) (hbyte : byte.toNat.testBit 7 = true) :
    form.lineCodes room (byte :: count :: rest) =
      (form.lineCodes (room - (form.expand byte (repeats count room) room).length) rest).map
        fun line ↦ (form.expand byte (repeats count room) room ++ line.1, line.2 + 2) := by
  rw [lineCodes, if_neg hroom]
  simp only [hbyte, if_true]

/-- The line goes on behind a run without one. -/
theorem lineCodes_uncounted {form : RunForm} {byte : UInt8} {rest : List UInt8} {room : Nat}
    (hroom : room ≠ 0) (hbyte : byte.toNat.testBit 7 = false) :
    form.lineCodes room (byte :: rest) =
      (form.lineCodes (room - (form.expand byte 1 room).length) rest).map
        fun line ↦ (form.expand byte 1 room ++ line.1, line.2 + 1) := by
  rw [lineCodes.eq_def, if_neg hroom]
  simp only [hbyte, Bool.false_eq_true, if_false]

/-- The bytes of the runs of a line with room for `room` more pixels, and the codes that the runs
stand for. -/
inductive LineBytes (form : RunForm) : Nat → List UInt8 → List UInt8 → Prop where
  | full : LineBytes form 0 [] []
  | counted {room : Nat} {byte count : UInt8} {bytes codes : List UInt8} (hroom : room ≠ 0)
      (hbyte : byte.toNat.testBit 7 = true)
      (rest : LineBytes form (room - (form.expand byte (repeats count room) room).length) bytes
        codes) :
      LineBytes form room (byte :: count :: bytes)
        (form.expand byte (repeats count room) room ++ codes)
  | uncounted {room : Nat} {byte : UInt8} {bytes codes : List UInt8} (hroom : room ≠ 0)
      (hbyte : byte.toNat.testBit 7 = false)
      (rest : LineBytes form (room - (form.expand byte 1 room).length) bytes codes) :
      LineBytes form room (byte :: bytes) (form.expand byte 1 room ++ codes)

namespace LineBytes

variable {form : RunForm} {room : Nat} {bytes codes : List UInt8}

/-- Every run leaves less room. -/
theorem length_le (h : LineBytes form room bytes codes) : bytes.length ≤ 2 * room := by
  induction h with
  | full => exact Nat.le_refl 0
  | @counted room byte count bytes codes hroom hbyte rest ih =>
    have hpos := Nat.pos_of_ne_zero hroom
    have := form.length_expand_pos byte (repeats_pos count hpos) hpos
    simp only [List.length_cons]
    omega
  | @uncounted room byte bytes codes hroom hbyte rest ih =>
    have hpos := Nat.pos_of_ne_zero hroom
    have := form.length_expand_pos byte Nat.one_pos hpos
    simp only [List.length_cons]
    omega

theorem length_codes (h : LineBytes form room bytes codes) : codes.length = room := by
  induction h with
  | full => rfl
  | counted hroom hbyte rest ih =>
    rw [List.length_append, ih]
    apply Nat.add_sub_cancel'
    exact form.length_expand_le _ _ _
  | uncounted hroom hbyte rest ih =>
    rw [List.length_append, ih]
    apply Nat.add_sub_cancel'
    exact form.length_expand_le _ _ _

/-- The line is read off its bytes, whatever follows them. -/
theorem lineCodes_append (h : LineBytes form room bytes codes) (following : List UInt8) :
    form.lineCodes room (bytes ++ following) = .ok (codes, bytes.length) := by
  induction h with
  | full => rw [lineCodes.eq_def, if_pos rfl]; rfl
  | counted hroom hbyte rest ih =>
    rw [List.cons_append, List.cons_append, lineCodes_counted hroom hbyte, ih]
    rfl
  | uncounted hroom hbyte rest ih =>
    rw [List.cons_append, lineCodes_uncounted hroom hbyte, ih]
    rfl

/-- No byte of the line can be left away. -/
theorem lineCodes_take (h : LineBytes form room bytes codes) {cut : Nat}
    (hcut : cut < bytes.length) :
    form.lineCodes room (bytes.take cut) = .error .sourceExhausted := by
  induction h generalizing cut with
  | full => exact absurd hcut (Nat.not_lt_zero _)
  | counted hroom hbyte rest ih =>
    match cut with
    | 0 => rw [List.take_zero, lineCodes.eq_def, if_neg hroom]
    | 1 =>
      rw [List.take_succ_cons, List.take_zero, lineCodes.eq_def, if_neg hroom]
      simp [hbyte]
    | cut + 2 =>
      rw [List.take_succ_cons, List.take_succ_cons, lineCodes_counted hroom hbyte,
        ih (by simpa using hcut)]
      rfl
  | uncounted hroom hbyte rest ih =>
    match cut with
    | 0 => rw [List.take_zero, lineCodes.eq_def, if_neg hroom]
    | cut + 1 =>
      rw [List.take_succ_cons, lineCodes_uncounted hroom hbyte, ih (by simpa using hcut)]
      rfl

/-- A line that is decoded stands at the front of its source. -/
theorem of_lineCodes {source : List UInt8} {count : Nat}
    (h : form.lineCodes room source = .ok (codes, count)) :
    LineBytes form room (source.take count) codes ∧ count ≤ source.length := by
  induction room, source using lineCodes.induct form generalizing codes count with
  | case1 source =>
    rw [lineCodes.eq_def, if_pos rfl] at h
    cases h
    exact ⟨.full, Nat.zero_le _⟩
  | case2 room hroom =>
    rw [lineCodes.eq_def, if_neg hroom] at h
    cases h
  | case3 room hroom byte hbyte =>
    rw [lineCodes.eq_def, if_neg hroom] at h
    simp [hbyte] at h
  | case4 room hroom byte hbyte times rest run =>
    rename_i ih
    rw [lineCodes_counted hroom hbyte] at h
    obtain ⟨⟨restCodes, restCount⟩, hrest, hline⟩ := except_map_eq_ok_iff.mp h
    cases hline
    obtain ⟨hbytes, hlength⟩ := ih hrest
    exact ⟨.counted hroom hbyte hbytes, Nat.add_le_add_right hlength 2⟩
  | case5 room hroom byte rest hbyte run =>
    rename_i ih
    have hbyte : byte.toNat.testBit 7 = false := Bool.eq_false_iff.mpr hbyte
    rw [lineCodes_uncounted hroom hbyte] at h
    obtain ⟨⟨restCodes, restCount⟩, hrest, hline⟩ := except_map_eq_ok_iff.mp h
    cases hline
    obtain ⟨hbytes, hlength⟩ := ih hrest
    exact ⟨.uncounted hroom hbyte hbytes, Nat.add_le_add_right hlength 1⟩

end LineBytes

/-- Two bytes for each pixel are enough for any runs. -/
theorem lineCodes_isOk (form : RunForm) (room : Nat) (source : List UInt8)
    (h : 2 * room ≤ source.length) : ∃ line, form.lineCodes room source = .ok line := by
  induction room, source using lineCodes.induct form with
  | case1 source =>
    rw [lineCodes.eq_def, if_pos rfl]
    exact ⟨_, rfl⟩
  | case2 room hroom => simp only [List.length_nil] at h; omega
  | case3 room hroom byte hbyte => simp only [List.length_cons, List.length_nil] at h; omega
  | case4 room hroom byte hbyte count rest run ih =>
    have hroomPos := Nat.pos_of_ne_zero hroom
    have hpos : 0 < run.length := form.length_expand_pos byte (repeats_pos count hroomPos) hroomPos
    simp only [List.length_cons] at h
    obtain ⟨line, hline⟩ := ih (by omega)
    rw [lineCodes_counted hroom hbyte, hline]
    exact ⟨_, rfl⟩
  | case5 room hroom byte rest hbyte run ih =>
    have hpos : 0 < run.length :=
      form.length_expand_pos byte Nat.one_pos (Nat.pos_of_ne_zero hroom)
    simp only [List.length_cons] at h
    obtain ⟨line, hline⟩ := ih (by omega)
    rw [lineCodes_uncounted hroom (Bool.eq_false_iff.mpr hbyte), hline]
    exact ⟨_, rfl⟩

theorem readsExactly_lineCodes (form : RunForm) (room : Nat) :
    ReadsExactly (2 * room) Prod.snd (form.lineCodes room) where
  isOk h := form.lineCodes_isOk room _ h
  count_le_bound := by
    intro source ⟨codes, count⟩ h
    obtain ⟨hbytes, hlength⟩ := LineBytes.of_lineCodes h
    calc
      count = (source.take count).length := (List.length_take_of_le hlength).symm
      _ ≤ 2 * room := hbytes.length_le
  count_le_length h := (LineBytes.of_lineCodes h).2
  eq_of_take_eq := by
    intro source other ⟨codes, count⟩ h agree
    obtain ⟨hbytes, hlength⟩ := LineBytes.of_lineCodes h
    have happend := hbytes.lineCodes_append (other.drop count)
    rw [List.length_take, Nat.min_eq_left hlength] at happend
    rwa [← agree, List.take_append_drop] at happend
  exhausted_of_lt := by
    intro source ⟨codes, count⟩ cut h hcut
    obtain ⟨hbytes, hlength⟩ := LineBytes.of_lineCodes h
    have hshort : cut < (source.take count).length := by
      rw [List.length_take]
      omega
    have htake := hbytes.lineCodes_take hshort
    rwa [List.take_take, Nat.min_eq_left (Nat.le_of_lt hcut)] at htake

end RunForm

theorem readsExactly_decodeRunLength (palette : Palette) (view : PaletteView) (form : RunForm)
    (width : Nat) :
    ReadsExactly (2 * width) DecodedLine.consumed
      (decodeRunLength palette view form width) :=
  (form.readsExactly_lineCodes width).map
    (fun line ↦ (⟨line.1.map (view.color palette), line.2⟩ : DecodedLine))
    DecodedLine.consumed (fun _ ↦ rfl)

theorem length_decodeRunLength {palette : Palette} {view : PaletteView} {form : RunForm}
    {width : Nat} {source : List UInt8} {line : DecodedLine}
    (h : decodeRunLength palette view form width source = .ok line) :
    line.pixels.length = width := by
  obtain ⟨⟨codes, count⟩, hcodes, rfl⟩ := except_map_eq_ok_iff.mp h
  rw [List.length_map]
  exact (RunForm.LineBytes.of_lineCodes hcodes).1.length_codes

end DualPlaneVideo
