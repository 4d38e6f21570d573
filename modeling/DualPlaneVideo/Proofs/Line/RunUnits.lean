import DualPlaneVideo.Proofs.Line.PlaneLine
import Mathlib.Data.ENat.Basic
import Mathlib.Order.Bounds.Basic

/-!
# Run-length lines as expanded units

A run-length source is a sequence of units, each a control byte that a count byte may follow. A unit
expands to a sequence of codes, which has no end when the count is zero. A line shows the codes of
the expansion from the first one on, and takes the bytes of the shortest sequence of leading units
that reaches the end of the line.
-/

namespace DualPlaneVideo

/-- A unit of a run-length source. -/
inductive RunUnit where
  | once (control : UInt8)
  | counted (control count : UInt8)
  deriving DecidableEq

namespace RunUnit

/-- The whole units at the front of a source. The top bit of a control byte says whether a count
follows. -/
def parse : List UInt8 → List RunUnit
  | [] => []
  | [control] => if control.toNat.testBit 7 then [] else [once control]
  | control :: count :: rest =>
    if control.toNat.testBit 7 then counted control count :: parse rest
    else once control :: parse (count :: rest)

def bytes : RunUnit → List UInt8
  | once control => [control]
  | counted control count => [control, count]

def control : RunUnit → UInt8
  | once control => control
  | counted control _ => control

/-- Code number `index` of a unit that has so many codes. -/
def code (form : RunForm) (unit : RunUnit) (index : Nat) : UInt8 :=
  match form with
  | .single => unit.control &&& 0x7F
  | .paired => if index % 2 = 0 then unit.control >>> 4 &&& 7 else unit.control &&& 7

/-- How often the codes of the control byte come, without end for a count of zero. -/
def repeats : RunUnit → ℕ∞
  | once _ => 1
  | counted _ count => if count = 0 then ⊤ else count.toNat

/-- The number of codes in a control byte. -/
def codesPerControl : RunForm → Nat
  | .single => 1
  | .paired => 2

/-- The number of codes of a unit. -/
def length (form : RunForm) (unit : RunUnit) : ℕ∞ :=
  unit.repeats * codesPerControl form

/-- The number of codes of a sequence of units. -/
def reach (form : RunForm) (units : List RunUnit) : ℕ∞ :=
  (units.map (length form)).sum

/-- Code number `index` of the expansion of a sequence of units. -/
def expandedCode? (form : RunForm) : List RunUnit → Nat → Option UInt8
  | [], _ => none
  | unit :: units, index =>
    if index < unit.length form then some (unit.code form index)
    else expandedCode? form units (index - (unit.length form).toNat)

/-! ## Units in a source -/

/-- The control byte announces a count exactly when there is one. -/
def WellFormed : RunUnit → Prop
  | once control => control.toNat.testBit 7 = false
  | counted control _ => control.toNat.testBit 7 = true

variable {form : RunForm} {unit : RunUnit} {room : Nat}

theorem parse_bytes_append (h : unit.WellFormed) (rest : List UInt8) :
    parse (unit.bytes ++ rest) = unit :: parse rest := by
  cases unit with
  | once control =>
    have hcontrol : control.toNat.testBit 7 = false := h
    cases rest with
    | nil => simp [bytes, parse, hcontrol]
    | cons count rest => simp [bytes, parse, hcontrol]
  | counted control count =>
    have hcontrol : control.toNat.testBit 7 = true := h
    simp [bytes, parse, hcontrol]

/-- A source without a whole unit is empty, or a control byte whose count is missing. -/
inductive HoldsNoUnit : List UInt8 → Prop where
  | nil : HoldsNoUnit []
  | control {control : UInt8} (h : control.toNat.testBit 7 = true) : HoldsNoUnit [control]

/-- A source is taken apart unit by unit. -/
@[elab_as_elim]
theorem source_induction {motive : List UInt8 → Prop}
    (short : ∀ source, HoldsNoUnit source → motive source)
    (append : ∀ (unit : RunUnit) rest, unit.WellFormed → motive rest → motive (unit.bytes ++ rest))
    (source : List UInt8) : motive source := by
  induction source using parse.induct with
  | case1 => exact short [] .nil
  | case2 control hcontrol => exact short [control] (.control hcontrol)
  | case3 control hcontrol =>
    exact append (once control) [] (Bool.eq_false_iff.mpr hcontrol) (short [] .nil)
  | case4 control count rest hcontrol ih => exact append (counted control count) rest hcontrol ih
  | case5 control count rest hcontrol ih =>
    exact append (once control) (count :: rest) (Bool.eq_false_iff.mpr hcontrol) ih

theorem HoldsNoUnit.parse_eq_nil {source : List UInt8} (h : HoldsNoUnit source) :
    parse source = [] := by
  cases h with
  | nil => rfl
  | control hcontrol => simp [parse, hcontrol]

theorem HoldsNoUnit.lineCodes {source : List UInt8} (h : HoldsNoUnit source) (hroom : room ≠ 0) :
    form.lineCodes room source = .error .sourceExhausted := by
  cases h with
  | nil => rw [RunForm.lineCodes.eq_def, if_neg hroom]
  | control hcontrol =>
    rw [RunForm.lineCodes.eq_def, if_neg hroom]
    simp [hcontrol]

/-- The units that are parsed stand at the front of the source. -/
theorem isPrefix_flatMap_bytes_parse (source : List UInt8) :
    (parse source).flatMap bytes <+: source := by
  induction source using source_induction with
  | short source h =>
    rw [h.parse_eq_nil]
    exact List.nil_prefix
  | append unit rest hunit ih =>
    rw [parse_bytes_append hunit, List.flatMap_cons]
    exact (List.prefix_append_right_inj _).mpr ih

/-! ## One unit on a line -/

/-- The codes of a unit on a line with room for `room` more pixels. -/
def run (form : RunForm) (unit : RunUnit) (room : Nat) : List UInt8 :=
  match unit with
  | once control => form.expand control 1 room
  | counted control count => form.expand control (RunForm.repeats count room) room

theorem lineCodes_bytes_append (hroom : room ≠ 0) (h : unit.WellFormed) (rest : List UInt8) :
    form.lineCodes room (unit.bytes ++ rest) =
      (form.lineCodes (room - (unit.run form room).length) rest).map fun line ↦
        (unit.run form room ++ line.1, line.2 + unit.bytes.length) := by
  cases unit with
  | once control => exact RunForm.lineCodes_uncounted hroom h
  | counted control count => exact RunForm.lineCodes_counted hroom h

theorem length_codes (form : RunForm) (control : UInt8) :
    (form.codes control).length = codesPerControl form := by
  cases form <;> rfl

theorem length_counted_zero (form : RunForm) (control : UInt8) :
    (counted control 0).length form = ⊤ := by
  cases form <;> rfl

/-- A unit is cut off at the end of the line, which one without an end always reaches. -/
theorem length_run_cases (form : RunForm) (unit : RunUnit) :
    (unit.length form = ⊤ ∧ ∀ room, (unit.run form room).length = room) ∨
      ∃ count : Nat, unit.length form = count ∧
        ∀ room, (unit.run form room).length = min room count := by
  cases unit with
  | once control =>
    refine .inr ⟨1 * codesPerControl form, by simp [length, repeats], fun room ↦ ?_⟩
    rw [run, RunForm.length_expand, length_codes]
  | counted control count =>
    by_cases hcount : count = 0
    · subst hcount
      refine .inl ⟨length_counted_zero form control, fun room ↦ ?_⟩
      rw [run, RunForm.length_expand, RunForm.repeats, if_pos rfl, Nat.min_eq_left]
      exact Nat.le_mul_of_pos_right room (form.length_codes_pos control)
    · refine .inr ⟨count.toNat * codesPerControl form, by simp [length, repeats, hcount],
        fun room ↦ ?_⟩
      rw [run, RunForm.length_expand, RunForm.repeats, if_neg hcount, length_codes]

theorem length_run_of_le (h : room ≤ unit.length form) : (unit.run form room).length = room := by
  rcases length_run_cases form unit with ⟨-, hrun⟩ | ⟨count, hlength, hrun⟩
  · exact hrun room
  · rw [hlength, Nat.cast_le] at h
    rw [hrun, Nat.min_eq_left h]

/-- A unit that does not reach the end of the line is shown whole. -/
theorem length_run_of_lt (h : unit.length form < room) :
    unit.length form = (unit.run form room).length ∧ (unit.run form room).length < room := by
  rcases length_run_cases form unit with ⟨hlength, -⟩ | ⟨count, hlength, hrun⟩
  · rw [hlength] at h
    exact absurd h not_top_lt
  · rw [hlength, Nat.cast_lt] at h
    rw [hlength, hrun, Nat.min_eq_right (Nat.le_of_lt h)]
    exact ⟨rfl, h⟩

theorem getElem?_flatten_replicate {α : Type} {pattern : List α} {count index : Nat}
    (h : index < count * pattern.length) :
    (List.replicate count pattern).flatten[index]? = pattern[index % pattern.length]? := by
  induction count generalizing index with
  | zero => omega
  | succ count ih =>
    rw [List.replicate_succ, List.flatten_cons]
    by_cases hfirst : index < pattern.length
    · rw [List.getElem?_append_left hfirst, Nat.mod_eq_of_lt hfirst]
    · have hlater : pattern.length ≤ index := Nat.le_of_not_lt hfirst
      rw [List.getElem?_append_right hlater, ih (by rw [Nat.succ_mul] at h; omega),
        ← Nat.mod_eq_sub_mod hlater]

theorem toNat_toUInt8_bitField (byte : UInt8) (low : Nat) {width : Nat} (hwidth : width ≤ 8) :
    (bitField byte.toNat low width).toUInt8.toNat = byte.toNat >>> low % 2 ^ width := by
  have hfield : bitField byte.toNat low width < 256 := by
    calc
      bitField byte.toNat low width < 1 <<< width := bitField_lt _ _ _
      _ = 2 ^ width := Nat.one_shiftLeft width
      _ ≤ 2 ^ 8 := Nat.pow_le_pow_right Nat.two_pos hwidth
  rw [Nat.toUInt8, UInt8.toNat_ofNat', Nat.mod_eq_of_lt hfield, bitField, Nat.one_shiftLeft]

/-- The fields of a control byte are the codes of its unit. -/
theorem getElem?_codes (form : RunForm) (unit : RunUnit) (index : Nat) :
    (form.codes unit.control)[index % codesPerControl form]? = some (unit.code form index) := by
  have hlow (width : Nat) (hwidth : width ≤ 8) (mask : UInt8)
      (hmask : mask.toNat = 2 ^ width - 1) :
      (bitField unit.control.toNat 0 width).toUInt8 = unit.control &&& mask := by
    apply UInt8.toNat_inj.mp
    rw [toNat_toUInt8_bitField _ _ hwidth, UInt8.toNat_and, hmask, Nat.and_two_pow_sub_one_eq_mod]
    rfl
  cases form with
  | single =>
    have hcode := hlow 7 (by decide) 0x7F rfl
    rw [codesPerControl, Nat.mod_one, code, RunForm.codes, hcode]
    rfl
  | paired =>
    have hsecond := hlow 3 (by decide) 7 rfl
    have hfirst : (bitField unit.control.toNat 4 3).toUInt8 = unit.control >>> 4 &&& 7 := by
      apply UInt8.toNat_inj.mp
      rw [toNat_toUInt8_bitField _ _ (by decide), UInt8.toNat_and, UInt8.toNat_shiftRight]
      exact (Nat.and_two_pow_sub_one_eq_mod _ 3).symm
    rw [codesPerControl, code, RunForm.codes, hfirst, hsecond]
    rcases Nat.mod_two_eq_zero_or_one index with heven | hodd
    · simp [heven]
    · simp [hodd]

theorem getElem?_run {index : Nat} (h : index < (unit.run form room).length) :
    (unit.run form room)[index]? = some (unit.code form index) := by
  have hexpand : ∃ count, unit.run form room = form.expand unit.control count room := by
    cases unit with
    | once control => exact ⟨_, rfl⟩
    | counted control count => exact ⟨_, rfl⟩
  obtain ⟨count, hrun⟩ := hexpand
  rw [hrun, RunForm.length_expand, length_codes] at h
  have hroom : index < room := Nat.lt_of_lt_of_le h (Nat.min_le_left _ _)
  have hcount : index < count * (form.codes unit.control).length := by
    rw [length_codes]
    exact Nat.lt_of_lt_of_le h (Nat.min_le_right _ _)
  rw [hrun, RunForm.expand, List.getElem?_take_of_lt hroom, getElem?_flatten_replicate hcount,
    length_codes, getElem?_codes]

/-! ## A whole line -/

theorem reach_cons (form : RunForm) (unit : RunUnit) (units : List RunUnit) :
    reach form (unit :: units) = unit.length form + reach form units := by
  rw [reach, List.map_cons, List.sum_cons]
  rfl

theorem lineCodes_zero (form : RunForm) (source : List UInt8) :
    form.lineCodes 0 source = .ok ([], 0) := by
  rw [RunForm.lineCodes.eq_def, if_pos rfl]

variable {units : List RunUnit}

/-- The codes of the first unit come first, and those of the other units behind them. -/
theorem expandedCode?_cons_of_lt {index : Nat} (h : index < unit.length form) :
    expandedCode? form (unit :: units) index = some (unit.code form index) := by
  rw [expandedCode?, if_pos h]

theorem expandedCode?_cons_of_le {count index : Nat} (hlength : unit.length form = count)
    (h : count ≤ index) :
    expandedCode? form (unit :: units) index = expandedCode? form units (index - count) := by
  have hle : ¬ (index : ℕ∞) < unit.length form := by
    rw [hlength, Nat.cast_lt]
    exact Nat.not_lt.mpr h
  rw [expandedCode?, if_neg hle, hlength, ENat.toNat_natCast]

/-- Behind a whole unit the other units have the rest of the line to fill. -/
theorem le_reach_cons_iff {count : Nat} (hlength : unit.length form = count) :
    (room : ℕ∞) ≤ reach form (unit :: units) ↔ ((room - count : Nat) : ℕ∞) ≤ reach form units := by
  rw [reach_cons, hlength, ENat.natCast_sub, tsub_le_iff_left]

/-- As many leading units as it takes to fill a line, and no more. -/
def Fills (form : RunForm) (units : List RunUnit) (room leading : Nat) : Prop :=
  IsLeast {leading : Nat | (room : ℕ∞) ≤ reach form (units.take leading)} leading

theorem fills_zero (form : RunForm) (units : List RunUnit) : Fills form units 0 0 :=
  ⟨by rw [Set.mem_ofPred_eq, Nat.cast_zero]; exact zero_le, fun _ _ ↦ Nat.zero_le _⟩

theorem not_le_reach_nil (hroom : room ≠ 0) : ¬ (room : ℕ∞) ≤ reach form [] := by
  intro h
  have hzero : (room : ℕ∞) = 0 := nonpos_iff_eq_zero.mp h
  exact hroom (Nat.cast_eq_zero.mp hzero)

theorem fills_one (hroom : room ≠ 0) (h : room ≤ unit.length form) :
    Fills form (unit :: units) room 1 := by
  constructor
  · simpa [reach] using h
  · intro leading hleading
    cases leading with
    | zero => exact absurd hleading (not_le_reach_nil hroom)
    | succ leading => exact Nat.le_add_left 1 leading

theorem Fills.cons {count leading : Nat} (hlength : unit.length form = count)
    (hroom : room ≠ 0) (h : Fills form units (room - count) leading) :
    Fills form (unit :: units) room (leading + 1) := by
  constructor
  · exact (le_reach_cons_iff hlength).mpr h.1
  · intro other hother
    cases other with
    | zero => exact absurd hother (not_le_reach_nil hroom)
    | succ other => exact Nat.succ_le_succ (h.2 ((le_reach_cons_iff hlength).mp hother))

/-- The codes of a line, which show the front of the expansion of its source, and the number of
leading units that it takes. -/
structure FilledBy (form : RunForm) (source : List UInt8) (room : Nat) (codes : List UInt8)
    (leading : Nat) : Prop where
  line : form.lineCodes room source =
    .ok (codes, (((parse source).take leading).flatMap bytes).length)
  fills : Fills form (parse source) room leading
  front : ∀ index < room, codes[index]? = expandedCode? form (parse source) index

theorem filledBy_zero (form : RunForm) (source : List UInt8) : FilledBy form source 0 [] 0 where
  line := lineCodes_zero form source
  fills := fills_zero form _
  front _ h := absurd h (Nat.not_lt_zero _)

/-- The unit at the end of the line. -/
theorem filledBy_one (hroom : room ≠ 0) (hunit : unit.WellFormed) (hlast : room ≤ unit.length form)
    (rest : List UInt8) : FilledBy form (unit.bytes ++ rest) room (unit.run form room) 1 := by
  have hlength := length_run_of_le hlast
  constructor
  · rw [lineCodes_bytes_append hroom hunit, hlength, Nat.sub_self, lineCodes_zero,
      parse_bytes_append hunit]
    simp [Except.map]
  · rw [parse_bytes_append hunit]
    exact fills_one hroom hlast
  · intro index hindex
    rw [parse_bytes_append hunit, getElem?_run (hindex.trans_eq hlength.symm),
      expandedCode?_cons_of_lt (lt_of_lt_of_le (Nat.cast_lt.mpr hindex) hlast)]

/-- A unit before the one at the end of the line. -/
theorem FilledBy.append {rest codes : List UInt8} {leading : Nat} (hroom : room ≠ 0)
    (hunit : unit.WellFormed) (hlength : unit.length form = (unit.run form room).length)
    (h : FilledBy form rest (room - (unit.run form room).length) codes leading) :
    FilledBy form (unit.bytes ++ rest) room (unit.run form room ++ codes) (leading + 1) := by
  constructor
  · rw [lineCodes_bytes_append hroom hunit, h.line, parse_bytes_append hunit]
    simp [Except.map, Nat.add_comm]
  · rw [parse_bytes_append hunit]
    exact h.fills.cons hlength hroom
  · intro index hindex
    rw [parse_bytes_append hunit]
    by_cases hfirst : index < (unit.run form room).length
    · rw [List.getElem?_append_left hfirst, getElem?_run hfirst, expandedCode?_cons_of_lt]
      rwa [hlength, Nat.cast_lt]
    · have hlater := Nat.le_of_not_lt hfirst
      rw [List.getElem?_append_right hlater, expandedCode?_cons_of_le hlength hlater]
      exact h.front _ (by omega)

/-- A line is full if the units of its source reach its end. -/
theorem exists_filledBy {source : List UInt8} (h : room ≤ reach form (parse source)) :
    ∃ codes leading, FilledBy form source room codes leading := by
  induction source using source_induction generalizing room with
  | short source hsource =>
    by_cases hroom : room = 0
    · subst hroom
      exact ⟨[], 0, filledBy_zero form source⟩
    · rw [hsource.parse_eq_nil] at h
      exact absurd h (not_le_reach_nil hroom)
  | append unit rest hunit ih =>
    rw [parse_bytes_append hunit] at h
    by_cases hroom : room = 0
    · subst hroom
      exact ⟨[], 0, filledBy_zero form _⟩
    · by_cases hlast : room ≤ unit.length form
      · exact ⟨_, 1, filledBy_one hroom hunit hlast rest⟩
      · obtain ⟨hlength, -⟩ := length_run_of_lt (lt_of_not_ge hlast)
        obtain ⟨codes, leading, hrest⟩ := ih ((le_reach_cons_iff hlength).mp h)
        exact ⟨_, leading + 1, hrest.append hroom hunit hlength⟩

/-- Otherwise the source is exhausted before the line is full. -/
theorem lineCodes_of_reach_lt {source : List UInt8} (h : reach form (parse source) < room) :
    form.lineCodes room source = .error .sourceExhausted := by
  have hroom : room ≠ 0 := by
    rintro rfl
    exact not_lt_zero h
  induction source using source_induction generalizing room with
  | short source hsource => exact hsource.lineCodes hroom
  | append unit rest hunit ih =>
    rw [parse_bytes_append hunit] at h
    have hlt : unit.length form < room := by
      rw [reach_cons] at h
      exact lt_of_le_of_lt le_self_add h
    obtain ⟨hlength, hrun⟩ := length_run_of_lt hlt
    have hrest : reach form (parse rest) < ((room - (unit.run form room).length : Nat) : ℕ∞) :=
      not_le.mp ((le_reach_cons_iff hlength).not.mp (not_le.mpr h))
    rw [lineCodes_bytes_append hroom hunit, ih hrest (by omega)]
    rfl

/-- Two bytes for each pixel are always enough. -/
theorem le_reach_of_length {source : List UInt8} (h : 2 * room ≤ source.length) :
    room ≤ reach form (parse source) := by
  obtain ⟨line, hline⟩ := form.lineCodes_isOk room source h
  by_contra hreach
  rw [lineCodes_of_reach_lt (not_le.mp hreach)] at hline
  cases hline

/-- The bytes of leading units stand at the front of the source. -/
theorem flatMap_bytes_take_parse (source : List UInt8) (leading : Nat) :
    let front := ((parse source).take leading).flatMap bytes
    front = source.take front.length := by
  intro front
  have hfront : front <+: (parse source).flatMap bytes := by
    refine ⟨((parse source).drop leading).flatMap bytes, ?_⟩
    rw [← List.flatMap_append, List.take_append_drop]
  exact List.prefix_iff_eq_take.mp (hfront.trans (isPrefix_flatMap_bytes_parse source))

end RunUnit

/-- If the units of a source reach the end of a line, then the line shows their expansion from the
first code on, each pixel as often as its resolution asks for, and takes the bytes of the shortest
sequence of leading units that fills it, whatever follows them. Otherwise the source is
exhausted. -/
theorem decodeRunLength_eq_expansion (palette : Palette) (view : PaletteView) (form : RunForm)
    (width : Nat) (source : List UInt8) :
    let units := RunUnit.parse source
    (width ≤ RunUnit.reach form units →
      ∃ line leading,
        decodeRunLength palette view form width source = .ok line ∧
        line.pixels.length = width ∧
        (∀ j < width, ∃ code, RunUnit.expandedCode? form units j = some code ∧
          line.pixels[j]? = some (palette.color (view.index code))) ∧
        (∀ depth, (PlaneLine.widen depth line.pixels).length = width * PlaneLine.copies depth ∧
          ∀ x, (PlaneLine.widen depth line.pixels)[x]? =
            line.pixels[x / PlaneLine.copies depth]?) ∧
        RunUnit.Fills form units width leading ∧
        line.consumed = ((units.take leading).flatMap RunUnit.bytes).length ∧
        ∀ following, decodeRunLength palette view form width
          ((units.take leading).flatMap RunUnit.bytes ++ following) = .ok line) ∧
    (RunUnit.reach form units < width →
      decodeRunLength palette view form width source = .error .sourceExhausted) := by
  intro units
  constructor
  · intro hreach
    obtain ⟨codes, leading, hcodes, hfills, hfront⟩ := RunUnit.exists_filledBy hreach
    obtain ⟨hbytes, -⟩ := RunForm.LineBytes.of_lineCodes hcodes
    rw [← RunUnit.flatMap_bytes_take_parse] at hbytes
    have hlength : codes.length = width := hbytes.length_codes
    refine ⟨_, leading, except_map_eq_ok_iff.mpr ⟨_, hcodes, rfl⟩, ?_, ?_, ?_, hfills, rfl, ?_⟩
    · rw [List.length_map, hlength]
    · intro j hj
      have hcode : codes[j]? = some codes[j] := List.getElem?_eq_getElem _
      refine ⟨codes[j], ?_, ?_⟩
      · rw [← hcode, hfront j hj]
      · rw [List.getElem?_map, hcode]
        rfl
    · intro depth
      refine ⟨?_, PlaneLine.getElem?_widen depth _⟩
      rw [PlaneLine.length_widen_eq_mul, List.length_map, hlength]
    · intro following
      exact except_map_eq_ok_iff.mpr ⟨_, hbytes.lineCodes_append following, rfl⟩
  · intro hreach
    rw [decodeRunLength, RunUnit.lineCodes_of_reach_lt hreach]
    rfl

/-- A palette with two gray entries. -/
def Palette.twoGrays : Palette := (Palette.zeroed.write 3 0x303030).write 4 0x404040

/-- A unit without an end, and an odd width that ends inside a pair. The last byte of either source
is left over. -/
theorem decodeRunLength_eq_expansion_six_five :
    (∃ line, decodeRunLength .twoGrays .lowerHalf .single 6 [5, 0x83, 2, 0x84, 0, 9] = .ok line ∧
      line.consumed = 5 ∧ line.pixels[5]? = some (Palette.twoGrays.color 4)) ∧
    (∃ line, decodeRunLength .twoGrays .lowerHalf .paired 5 [0x12, 0xB4, 3, 7] = .ok line ∧
      line.consumed = 3 ∧ line.pixels[4]? = some (Palette.twoGrays.color 3)) ∧
    decodeRunLength .twoGrays .lowerHalf .single 6 [0x85, 5, 0x83] = .error .sourceExhausted := by
  obtain ⟨line, leading, hline, -, hpixels, -⟩ :=
    (decodeRunLength_eq_expansion .twoGrays .lowerHalf .single 6 [5, 0x83, 2, 0x84, 0, 9]).1
      (by decide)
  obtain ⟨pairs, leadingPairs, hpairs, -, hpixelsPairs, -⟩ :=
    (decodeRunLength_eq_expansion .twoGrays .lowerHalf .paired 5 [0x12, 0xB4, 3, 7]).1 (by decide)
  refine ⟨⟨line, hline, ?_, ?_⟩, ⟨pairs, hpairs, ?_, ?_⟩, ?_⟩
  · have hcount : (decodeRunLength .twoGrays .lowerHalf .single 6
        [5, 0x83, 2, 0x84, 0, 9]).map DecodedLine.consumed = .ok 5 := rfl
    rw [hline] at hcount
    exact Except.ok.inj hcount
  · obtain ⟨code, hcode, hpixel⟩ := hpixels 5 (by decide)
    have hfour : code = 4 := Option.some.inj (hcode.symm.trans (by decide))
    rw [hpixel, hfour]
    rfl
  · have hcount : (decodeRunLength .twoGrays .lowerHalf .paired 5
        [0x12, 0xB4, 3, 7]).map DecodedLine.consumed = .ok 3 := rfl
    rw [hpairs] at hcount
    exact Except.ok.inj hcount
  · obtain ⟨code, hcode, hpixel⟩ := hpixelsPairs 4 (by decide)
    have hthree : code = 3 := Option.some.inj (hcode.symm.trans (by decide))
    rw [hpixel, hthree]
    rfl
  · exact (decodeRunLength_eq_expansion .twoGrays .lowerHalf .single 6 [0x85, 5, 0x83]).2
      (by decide)

end DualPlaneVideo
