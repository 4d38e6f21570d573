import DualPlaneVideo.Line.PlaneLine
import DualPlaneVideo.Proofs.Line.Reading

/-!
# Plane lines, whatever the registers

A decoded plane line fills its buffer to the last pixel, for every coding, kind of image and
resolution. With two source bytes for each of these pixels only a mosaic image fails. The counts of
both planes together settle both lines, and either source that is cut short fails.
-/

namespace DualPlaneVideo

theorem size_holdPixel (period : Nat) (line : Array Color) (x : Nat) :
    (holdPixel period line x).size = line.size := by
  unfold holdPixel
  split
  · rfl
  · exact Array.size_setIfInBounds

theorem size_holdFold (period : Nat) (line : Array Color) (count : Nat) :
    (Nat.fold count (fun x _ held ↦ holdPixel period held x) line).size = line.size := by
  induction count with
  | zero => rfl
  | succ count ih => rw [Nat.fold_succ, size_holdPixel, ih]

theorem size_holdLine (factor : UInt8) (line : Array Color) :
    (holdLine factor line).size = line.size := by
  unfold holdLine
  split
  · rfl
  · exact size_holdFold _ line line.size

namespace PlaneLine

theorem decodedWidth_le (depth : PixelDepth) (baseWidth : Nat) :
    decodedWidth depth baseWidth ≤ 2 * baseWidth := by
  unfold decodedWidth
  split <;> omega

theorem length_widen {depth : PixelDepth} {baseWidth : Nat} {pixels : List Color}
    (h : pixels.length = decodedWidth depth baseWidth) :
    (widen depth pixels).length = 2 * baseWidth := by
  unfold decodedWidth at h
  unfold widen
  split at h
  · rw [if_pos (by assumption), h]
  · rw [if_neg (by assumption), List.length_flatMap]
    simp [h, Nat.mul_comm, List.map_const']

/-- How many pixels of the line show a decoded pixel. -/
def copies (depth : PixelDepth) : Nat := if depth.isDouble then 1 else 2

theorem length_widen_eq_mul (depth : PixelDepth) (pixels : List Color) :
    (widen depth pixels).length = pixels.length * copies depth := by
  unfold widen copies
  split
  · rw [Nat.mul_one]
  · simp [List.length_flatMap, List.map_const']

theorem getElem?_flatMap_pair (pixels : List Color) (x : Nat) :
    (pixels.flatMap fun color ↦ [color, color])[x]? = pixels[x / 2]? := by
  induction pixels generalizing x with
  | nil => rfl
  | cons color pixels ih =>
    rw [List.flatMap_cons]
    match x with
    | 0 => rfl
    | 1 => rfl
    | x + 2 =>
      rw [Nat.add_div_right x Nat.two_pos, List.getElem?_cons_succ, ← ih x]
      rfl

theorem getElem?_widen (depth : PixelDepth) (pixels : List Color) (x : Nat) :
    (widen depth pixels)[x]? = pixels[x / copies depth]? := by
  unfold widen copies
  split
  · rw [Nat.div_one]
  · exact getElem?_flatMap_pair pixels x

/-- At normal resolution a line of one color becomes one of twice the length. -/
theorem widen_replicate (count : Nat) (color : Color) :
    widen .normal8 (List.replicate count color) = List.replicate (count * 2) color := by
  rw [widen, if_neg (by decide), List.flatMap_replicate]
  exact List.flatten_replicate_replicate (m := 2)

theorem size_ofDecoded {parameters : DisplayParameters} {baseWidth : Nat} {line : DecodedLine}
    (h : line.pixels.length = decodedWidth parameters.depth baseWidth) :
    (ofDecoded parameters line).pixels.size = 2 * baseWidth := by
  have hwiden := length_widen h
  unfold ofDecoded
  dsimp only
  split
  · rw [size_holdLine]
    exact hwiden
  · exact hwiden

theorem size_blank (baseWidth consumed : Nat) :
    (blank baseWidth consumed).pixels.size = 2 * baseWidth :=
  Array.size_replicate

/-! ## A plane with an image of its own -/

variable {registers : RegisterFile} {plane : Plane} {baseWidth : Nat}

/-- The registers decide whether the plane's own source is read at all. -/
theorem decodeOwn_cases (registers : RegisterFile) (plane : Plane) (baseWidth : Nat) :
    ReadsExactly (2 * decodedWidth (registers.parameters.get plane).depth baseWidth)
        DecodedLine.consumed (decodeOwn registers plane baseWidth) ∨
      ((registers.parameters.get plane).kind = .mosaic ∧
        ∀ source, decodeOwn registers plane baseWidth source = .error (.mosaicImage plane)) ∨
      ((registers.codingMethod plane = .off ∨ registers.codingMethod plane = .rgb555) ∧
        ∀ source, decodeOwn registers plane baseWidth source = .error (.noOwnImage plane)) := by
  unfold decodeOwn
  dsimp only
  cases hkind : (registers.parameters.get plane).kind with
  | mosaic => exact .inr (.inl ⟨rfl, fun _ ↦ rfl⟩)
  | runLength => exact .inl (readsExactly_decodeRunLength _ _ _ _)
  | normal =>
    cases hmethod : registers.codingMethod plane with
    | off => exact .inr (.inr ⟨.inl rfl, fun _ ↦ rfl⟩)
    | rgb555 => exact .inr (.inr ⟨.inr rfl, fun _ ↦ rfl⟩)
    | dyuv => exact .inl (readsExactly_decodeDeltaYuv _ _)
    | clut8 => exact .inl (readsExactly_decodeIndexed _ _ _ _)
    | clut7 => exact .inl (readsExactly_decodeIndexed _ _ _ _)
    | clut77 => exact .inl (readsExactly_decodeIndexed _ _ _ _)
    | clut4 => exact .inl (readsExactly_decodeIndexed _ _ _ _)

theorem length_decodeOwn {source : List UInt8} {line : DecodedLine}
    (h : decodeOwn registers plane baseWidth source = .ok line) :
    line.pixels.length = decodedWidth (registers.parameters.get plane).depth baseWidth := by
  unfold decodeOwn at h
  cases hkind : (registers.parameters.get plane).kind with
  | mosaic => simp [hkind] at h
  | runLength =>
    simp only [hkind] at h
    exact length_decodeRunLength h
  | normal =>
    simp only [hkind] at h
    cases hmethod : registers.codingMethod plane <;> simp only [hmethod] at h
    case off => cases h
    case rgb555 => cases h
    case dyuv => exact length_decodeDeltaYuv h
    all_goals exact length_decodeIndexed h

/-- A successful reading of the plane's own source is exact. -/
theorem readsExactly_of_decodeOwn {source : List UInt8} {line : DecodedLine}
    (h : decodeOwn registers plane baseWidth source = .ok line) :
    ReadsExactly (2 * decodedWidth (registers.parameters.get plane).depth baseWidth)
      DecodedLine.consumed (decodeOwn registers plane baseWidth) := by
  rcases decodeOwn_cases registers plane baseWidth with hexact | ⟨-, herror⟩ | ⟨-, herror⟩
  · exact hexact
  · rw [herror] at h
    cases h
  · rw [herror] at h
    cases h

/-! ## Both planes -/

/-- Plane A cannot show direct color. -/
theorem codingMethod_a_ne_rgb555 (registers : RegisterFile) :
    registers.codingMethod .a ≠ .rgb555 := by
  simp only [RegisterFile.codingMethod, ImageCoding.method]
  unfold ImageCoding.methodOfCodeA
  split <;> simp

/-- Outside direct color a plane that is not off has an image of its own. -/
theorem codingMethod_ne_rgb555 (hdirect : registers.codingMethod .b ≠ .rgb555) (plane : Plane) :
    registers.codingMethod plane ≠ .rgb555 := by
  cases plane with
  | a => exact codingMethod_a_ne_rgb555 registers
  | b => exact hdirect

variable {sources : PerPlane (List UInt8)} {line : PlaneLine}

theorem decode_direct (hdirect : registers.codingMethod .b = .rgb555) :
    decode registers plane baseWidth sources =
      decodeCombined registers plane baseWidth sources := by
  rw [decode, if_pos hdirect]

theorem decode_off (hdirect : registers.codingMethod .b ≠ .rgb555)
    (hoff : registers.codingMethod plane = .off) :
    decode registers plane baseWidth sources = .ok (blank baseWidth 0) := by
  rw [decode, if_neg hdirect, if_pos hoff]

theorem decode_own (hdirect : registers.codingMethod .b ≠ .rgb555)
    (hoff : registers.codingMethod plane ≠ .off) :
    decode registers plane baseWidth sources =
      (decodeOwn registers plane baseWidth (sources.get plane)).map
        (ofDecoded (registers.parameters.get plane)) := by
  rw [decode, if_neg hdirect, if_neg hoff]

theorem size_decode (h : decode registers plane baseWidth sources = .ok line) :
    line.pixels.size = 2 * baseWidth := by
  by_cases hdirect : registers.codingMethod .b = .rgb555
  · rw [decode_direct hdirect] at h
    obtain ⟨decoded, hdecoded, rfl⟩ := except_map_eq_ok_iff.mp h
    cases plane with
    | a => exact size_blank _ _
    | b => exact size_ofDecoded (length_decodeDirectColor hdecoded)
  · by_cases hoff : registers.codingMethod plane = .off
    · rw [decode_off hdirect hoff] at h
      cases h
      exact size_blank _ _
    · rw [decode_own hdirect hoff] at h
      obtain ⟨decoded, hdecoded, rfl⟩ := except_map_eq_ok_iff.mp h
      exact size_ofDecoded (length_decodeOwn hdecoded)

/-- With two bytes for every pixel of the line, the mosaic kind is all that can fail. -/
theorem decode_eq_error_of_long {failure : Failure}
    (hlong : ∀ plane, 2 * (2 * baseWidth) ≤ (sources.get plane).length)
    (h : decode registers plane baseWidth sources = .error failure) :
    failure = .mosaicImage plane ∧ (registers.parameters.get plane).kind = .mosaic := by
  by_cases hdirect : registers.codingMethod .b = .rgb555
  · have hwidth := decodedWidth_le registers.parameters.b.depth baseWidth
    have ha := hlong .a
    have hb := hlong .b
    simp only [PerPlane.get] at ha hb
    have hok := decodeDirectColor_eq_ok_iff.mpr
      ⟨(by omega : decodedWidth registers.parameters.b.depth baseWidth ≤ sources.a.length),
        (by omega : decodedWidth registers.parameters.b.depth baseWidth ≤ sources.b.length), rfl⟩
    rw [decode_direct hdirect, decodeCombined, hok] at h
    cases h
  · by_cases hoff : registers.codingMethod plane = .off
    · rw [decode_off hdirect hoff] at h
      cases h
    · rw [decode_own hdirect hoff] at h
      rcases decodeOwn_cases registers plane baseWidth with hexact | ⟨hkind, herror⟩ | ⟨hnone, -⟩
      · have hwidth := decodedWidth_le (registers.parameters.get plane).depth baseWidth
        have henough : 2 * decodedWidth (registers.parameters.get plane).depth baseWidth ≤
            (sources.get plane).length := by
          calc
            2 * decodedWidth (registers.parameters.get plane).depth baseWidth ≤
                2 * (2 * baseWidth) := Nat.mul_le_mul_left 2 hwidth
            _ ≤ (sources.get plane).length := hlong plane
        obtain ⟨decoded, hdecoded⟩ := hexact.isOk henough
        rw [hdecoded] at h
        cases h
      · rw [herror] at h
        cases h
        exact ⟨rfl, hkind⟩
      · exact absurd hnone (not_or.mpr ⟨hoff, codingMethod_ne_rgb555 hdirect plane⟩)

/-- With enough bytes every plane has a line, unless its image is a mosaic. -/
theorem exists_lines (hlong : ∀ plane, 2 * (2 * baseWidth) ≤ (sources.get plane).length)
    (hkind : ∀ plane, (registers.parameters.get plane).kind ≠ .mosaic) :
    ∃ lines : PerPlane PlaneLine,
      ∀ plane, decode registers plane baseWidth sources = .ok (lines.get plane) := by
  have hline (plane : Plane) : ∃ line, decode registers plane baseWidth sources = .ok line := by
    cases hdecoded : decode registers plane baseWidth sources with
    | error failure => exact absurd (decode_eq_error_of_long hlong hdecoded).2 (hkind plane)
    | ok line => exact ⟨line, rfl⟩
  obtain ⟨lineA, hlineA⟩ := hline .a
  obtain ⟨lineB, hlineB⟩ := hline .b
  exact ⟨⟨lineA, lineB⟩, Plane.forall_iff.mpr ⟨hlineA, hlineB⟩⟩

/-! ## Mosaic images -/

/-- The plane has its own source decoded, and the registers say that this is a mosaic. -/
def DecodesMosaic (registers : RegisterFile) (plane : Plane) : Prop :=
  registers.codingMethod .b ≠ .rgb555 ∧ registers.codingMethod plane ≠ .off ∧
    (registers.parameters.get plane).kind = .mosaic

/-- A mosaic is rejected before any byte of it is read. -/
theorem decode_of_decodesMosaic (h : DecodesMosaic registers plane) :
    decode registers plane baseWidth sources = .error (.mosaicImage plane) := by
  obtain ⟨hdirect, hoff, hkind⟩ := h
  rw [decode_own hdirect hoff, decodeOwn]
  simp only [hkind]
  rfl

/-- A plane line fails for want of bytes or because it is a mosaic. -/
theorem decode_error {failure : Failure}
    (h : decode registers plane baseWidth sources = .error failure) :
    failure = .sourceExhausted ∨
      failure = .mosaicImage plane ∧ DecodesMosaic registers plane := by
  by_cases hdirect : registers.codingMethod .b = .rgb555
  · rw [decode_direct hdirect, decodeCombined] at h
    exact .inl (decodeDirectColor_error (except_map_eq_error_iff.mp h))
  · by_cases hoff : registers.codingMethod plane = .off
    · rw [decode_off hdirect hoff] at h
      cases h
    · rw [decode_own hdirect hoff] at h
      have hown := except_map_eq_error_iff.mp h
      rcases decodeOwn_cases registers plane baseWidth with hexact | ⟨hkind, herror⟩ | ⟨hnone, -⟩
      · exact .inl (hexact.eq_exhausted hown)
      · rw [herror] at hown
        exact .inr ⟨(Except.error.inj hown).symm, hdirect, hoff, hkind⟩
      · exact absurd hnone (not_or.mpr ⟨hoff, codingMethod_ne_rgb555 hdirect plane⟩)

/-! ## The counts of both planes -/

variable {lines : PerPlane PlaneLine} {others : PerPlane (List UInt8)}

/-- In direct color either plane counts what both sources give. -/
theorem decodeCombined_eq_ok (h : decodeCombined registers plane baseWidth sources = .ok line) :
    line.consumed = decodedWidth registers.parameters.b.depth baseWidth ∧
      ∀ side, line.consumed ≤ (sources.get side).length := by
  obtain ⟨decoded, hdecoded, rfl⟩ := except_map_eq_ok_iff.mp h
  obtain ⟨hhigh, hlow, rfl⟩ := decodeDirectColor_eq_ok_iff.mp hdecoded
  cases plane <;> exact ⟨rfl, Plane.forall_iff.mpr ⟨hhigh, hlow⟩⟩

theorem consumed_le_length
    (h : ∀ plane, decode registers plane baseWidth sources = .ok (lines.get plane))
    (plane : Plane) : (lines.get plane).consumed ≤ (sources.get plane).length := by
  have hplane := h plane
  by_cases hdirect : registers.codingMethod .b = .rgb555
  · rw [decode_direct hdirect] at hplane
    exact (decodeCombined_eq_ok hplane).2 plane
  · by_cases hoff : registers.codingMethod plane = .off
    · rw [decode_off hdirect hoff] at hplane
      rw [← Except.ok.inj hplane]
      exact Nat.zero_le _
    · rw [decode_own hdirect hoff] at hplane
      obtain ⟨decoded, hdecoded, hline⟩ := except_map_eq_ok_iff.mp hplane
      rw [← hline]
      exact (readsExactly_of_decodeOwn hdecoded).count_le_length hdecoded

/-- Two sources that agree with the first pair as far as the counts go give the same lines. -/
theorem decode_eq_of_take_eq
    (h : ∀ plane, decode registers plane baseWidth sources = .ok (lines.get plane))
    (agree : ∀ plane, (others.get plane).take (lines.get plane).consumed =
      (sources.get plane).take (lines.get plane).consumed) (plane : Plane) :
    decode registers plane baseWidth others = .ok (lines.get plane) := by
  have hplane := h plane
  by_cases hdirect : registers.codingMethod .b = .rgb555
  · have hconsumed (side : Plane) : (lines.get side).consumed =
        decodedWidth registers.parameters.b.depth baseWidth := by
      have hside := h side
      rw [decode_direct hdirect] at hside
      exact (decodeCombined_eq_ok hside).1
    have hlength (side : Plane) :
        decodedWidth registers.parameters.b.depth baseWidth ≤ (others.get side).length := by
      rw [← hconsumed side]
      exact le_length_of_take_eq (consumed_le_length h side) (agree side)
    have hagree (side : Plane) :
        (others.get side).take (decodedWidth registers.parameters.b.depth baseWidth) =
          (sources.get side).take (decodedWidth registers.parameters.b.depth baseWidth) := by
      rw [← hconsumed side]
      exact agree side
    rw [decode_direct hdirect, decodeCombined] at hplane ⊢
    obtain ⟨decoded, hdecoded, hline⟩ := except_map_eq_ok_iff.mp hplane
    obtain ⟨-, -, rfl⟩ := decodeDirectColor_eq_ok_iff.mp hdecoded
    have hother := decodeDirectColor_eq_ok_iff.mpr ⟨hlength .a, hlength .b, rfl⟩
    rw [hagree .a, hagree .b] at hother
    exact except_map_eq_ok_iff.mpr ⟨_, hother, hline⟩
  · by_cases hoff : registers.codingMethod plane = .off
    · rw [decode_off hdirect hoff] at hplane ⊢
      exact hplane
    · rw [decode_own hdirect hoff] at hplane ⊢
      obtain ⟨decoded, hdecoded, hline⟩ := except_map_eq_ok_iff.mp hplane
      have hsame := agree plane
      rw [← hline] at hsame
      exact except_map_eq_ok_iff.mpr
        ⟨decoded, (readsExactly_of_decodeOwn hdecoded).eq_of_take_eq hdecoded hsame, hline⟩

/-- In direct color a source that is cut short fails for both planes. -/
theorem decode_cut_direct (hdirect : registers.codingMethod .b = .rgb555)
    (h : ∀ plane, decode registers plane baseWidth sources = .ok (lines.get plane)) {side : Plane}
    {cut : Nat} (hcut : cut < (lines.get side).consumed) (plane : Plane) :
    decode registers plane baseWidth (sources.set side ((sources.get side).take cut)) =
      .error .sourceExhausted := by
  have hside := h side
  rw [decode_direct hdirect] at hside
  rw [(decodeCombined_eq_ok hside).1] at hcut
  have hshort : ((sources.get side).take cut).length <
      decodedWidth registers.parameters.b.depth baseWidth := by
    rw [List.length_take]
    omega
  have herror : decodeDirectColor (decodedWidth registers.parameters.b.depth baseWidth)
      (sources.set side ((sources.get side).take cut)).a
      (sources.set side ((sources.get side).take cut)).b = .error .sourceExhausted := by
    apply decodeDirectColor_eq_error
    cases side with
    | a => exact .inl hshort
    | b => exact .inr hshort
  rw [decode_direct hdirect, decodeCombined, herror]
  rfl

/-- A source that is cut before its count is too short for its plane. -/
theorem decode_cut_self
    (h : ∀ plane, decode registers plane baseWidth sources = .ok (lines.get plane)) {side : Plane}
    {cut : Nat} (hcut : cut < (lines.get side).consumed) :
    decode registers side baseWidth (sources.set side ((sources.get side).take cut)) =
      .error .sourceExhausted := by
  by_cases hdirect : registers.codingMethod .b = .rgb555
  · exact decode_cut_direct hdirect h hcut side
  · have hside := h side
    by_cases hoff : registers.codingMethod side = .off
    · rw [decode_off hdirect hoff] at hside
      rw [← Except.ok.inj hside] at hcut
      exact absurd hcut (Nat.not_lt_zero _)
    · rw [decode_own hdirect hoff] at hside
      obtain ⟨decoded, hdecoded, hline⟩ := except_map_eq_ok_iff.mp hside
      rw [← hline] at hcut
      rw [decode_own hdirect hoff, PerPlane.get_set_self,
        (readsExactly_of_decodeOwn hdecoded).exhausted_of_lt hdecoded hcut]
      rfl

/-- Cutting one source leaves the other plane its line, unless both share an image. -/
theorem decode_cut_cases
    (h : ∀ plane, decode registers plane baseWidth sources = .ok (lines.get plane)) {side : Plane}
    {cut : Nat} (hcut : cut < (lines.get side).consumed) (plane : Plane) :
    decode registers plane baseWidth (sources.set side ((sources.get side).take cut)) =
        .error .sourceExhausted ∨
      decode registers plane baseWidth (sources.set side ((sources.get side).take cut)) =
        .ok (lines.get plane) := by
  by_cases hplane : plane = side
  · subst hplane
    exact .inl (decode_cut_self h hcut)
  · by_cases hdirect : registers.codingMethod .b = .rgb555
    · exact .inl (decode_cut_direct hdirect h hcut plane)
    · right
      rw [← h plane]
      by_cases hoff : registers.codingMethod plane = .off
      · rw [decode_off hdirect hoff, decode_off hdirect hoff]
      · rw [decode_own hdirect hoff, decode_own hdirect hoff, PerPlane.get_set_of_ne _ hplane]

end PlaneLine

end DualPlaneVideo
