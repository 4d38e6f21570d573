import DualPlaneVideo.Proofs.Line.PlaneLine
import Mathlib.Algebra.BigOperators.Group.Finset.Basic

/-!
# Delta-coded lines as prefix sums

The luma of a pixel is the start value and all differences up to that pixel, added up, and so is the
chroma after a word. A decoded line is therefore given pixel by pixel: no pixel needs another to be
decoded first.
-/

namespace DualPlaneVideo

namespace Yuv

/-- Word `index` of a source, of two bytes each, the high byte first. -/
def word (source : List UInt8) (index : Nat) : Nat :=
  256 * (source.getD (2 * index) 0).toNat + (source.getD (2 * index + 1) 0).toNat

/-- The difference that the four bits of a word from `low` upwards stand for. -/
def difference (word low : Nat) : Nat :=
  (dequantizer.get ⟨word / 2 ^ low % 16, Nat.mod_lt _ (by decide)⟩).toNat

/-- The luma difference of a pixel. The first pixel of a word has it in bits 8 to 11, the second in
bits 0 to 3. -/
def lumaDifference (source : List UInt8) (pixel : Nat) : Nat :=
  difference (word source (pixel / 2)) (if pixel % 2 = 0 then 8 else 0)

/-- The luma of a pixel. -/
def lumaAt (seed : UInt8) (source : List UInt8) (pixel : Nat) : Nat :=
  (seed.toNat + ∑ i ∈ Finset.range (pixel + 1), lumaDifference source i) % 256

/-- A chroma value after so many words, with its differences in the bits from `low` upwards. -/
def chromaAfter (seed : UInt8) (low : Nat) (source : List UInt8) (words : Nat) : Nat :=
  (seed.toNat + ∑ k ∈ Finset.range words, difference (word source k) low) % 256

/-- A chroma value of a pixel. The second pixel of a word has the value after the word, and the
first the mean of the values before and after it, rounded down. -/
def chromaAt (seed : UInt8) (low : Nat) (source : List UInt8) (pixel : Nat) : Nat :=
  if pixel % 2 = 1 then chromaAfter seed low source (pixel / 2 + 1)
  else (chromaAfter seed low source (pixel / 2) + chromaAfter seed low source (pixel / 2 + 1)) / 2

/-- The pixel has the luma and chroma that the prefix sums give it. -/
structure IsSumAt (seed : Yuv) (source : List UInt8) (index : Nat) (pixel : Yuv) : Prop where
  y : pixel.y.toNat = lumaAt seed.y source index
  u : pixel.u.toNat = chromaAt seed.u 12 source index
  v : pixel.v.toNat = chromaAt seed.v 4 source index

variable {seed : Yuv} {high low : UInt8} {rest source : List UInt8}

/-! ## The first word -/

theorem word_cons_zero (high low : UInt8) (rest : List UInt8) :
    word (high :: low :: rest) 0 = 256 * high.toNat + low.toNat := rfl

theorem word_cons_succ (high low : UInt8) (rest : List UInt8) (index : Nat) :
    word (high :: low :: rest) (index + 1) = word rest index := rfl

theorem toNat_delta {byte : UInt8} {offset word low : Nat}
    (h : bitField byte.toNat offset 4 = word / 2 ^ low % 16) :
    (delta byte offset).toNat = difference word low := by
  simp only [delta, h]
  rfl

/-- The nibbles of the high byte are the upper ones of the word. -/
theorem toNat_delta_high (high low : UInt8) (offset : Nat) :
    (delta high offset).toNat = difference (256 * high.toNat + low.toNat) (8 + offset) := by
  apply toNat_delta
  have hbyte : (256 * high.toNat + low.toNat) / 2 ^ 8 = high.toNat := by
    have := low.toNat_lt
    omega
  rw [Nat.pow_add, ← Nat.div_div_eq_div_mul, hbyte, bitField, Nat.shiftRight_eq_div_pow]
  rfl

/-- The nibbles of the low byte are the lower ones of the word. -/
theorem toNat_delta_low (high low : UInt8) {offset : Nat} (hoffset : offset ≤ 4) :
    (delta low offset).toNat = difference (256 * high.toNat + low.toNat) offset := by
  apply toNat_delta
  have hpow : 2 ^ offset * 2 ^ (4 - offset) = 16 := by
    rw [← Nat.pow_add, Nat.add_sub_cancel' hoffset]
  have hsplit : 256 * high.toNat = 2 ^ offset * (16 * (2 ^ (4 - offset) * high.toNat)) := by
    calc
      256 * high.toNat = 2 ^ offset * 2 ^ (4 - offset) * (16 * high.toNat) := by
        rw [hpow]
        omega
      _ = 2 ^ offset * (16 * (2 ^ (4 - offset) * high.toNat)) := by
        rw [Nat.mul_assoc, Nat.mul_left_comm (2 ^ (4 - offset))]
  rw [hsplit, Nat.mul_add_div (Nat.two_pow_pos offset), Nat.mul_add_mod, bitField,
    Nat.shiftRight_eq_div_pow]
  rfl

/-! ## Sums from the second word on -/

/-- The luma differences of the first word. -/
theorem lumaDifference_cons_zero (high low : UInt8) (rest : List UInt8) :
    lumaDifference (high :: low :: rest) 0 = (delta high 0).toNat :=
  (toNat_delta_high high low 0).symm

theorem lumaDifference_cons_one (high low : UInt8) (rest : List UInt8) :
    lumaDifference (high :: low :: rest) 1 = (delta low 0).toNat :=
  (toNat_delta_low high low (Nat.zero_le 4)).symm

theorem lumaDifference_cons_add_two (high low : UInt8) (rest : List UInt8) (pixel : Nat) :
    lumaDifference (high :: low :: rest) (pixel + 2) = lumaDifference rest pixel := by
  rw [lumaDifference, lumaDifference, Nat.add_div_right pixel Nat.two_pos, word_cons_succ,
    Nat.add_mod_right]

/-- Behind the first word luma goes on from the word's second pixel. -/
theorem lumaAt_cons_add_two (seed : Yuv) (high low : UInt8) (rest : List UInt8) (pixel : Nat) :
    lumaAt seed.y (high :: low :: rest) (pixel + 2) =
      lumaAt (seed.nextPair high low).2.y rest pixel := by
  have hnext : (seed.nextPair high low).2.y = seed.y + delta high 0 + delta low 0 := rfl
  rw [lumaAt, lumaAt, hnext, Finset.sum_range_succ', Finset.sum_range_succ',
    lumaDifference_cons_zero, lumaDifference_cons_one, UInt8.toNat_add, UInt8.toNat_add]
  simp only [lumaDifference_cons_add_two]
  omega

/-- Behind the first word chroma goes on from the value after it. -/
theorem chromaAfter_cons_succ {start next change : UInt8} {offset : Nat}
    (hnext : next = start + change)
    (hchange : change.toNat = difference (256 * high.toNat + low.toNat) offset) (words : Nat) :
    chromaAfter start offset (high :: low :: rest) (words + 1) =
      chromaAfter next offset rest words := by
  rw [chromaAfter, chromaAfter, hnext, Finset.sum_range_succ', word_cons_zero, ← hchange,
    UInt8.toNat_add]
  simp only [word_cons_succ]
  omega

theorem chromaAt_cons_add_two {start next change : UInt8} {offset : Nat}
    (hnext : next = start + change)
    (hchange : change.toNat = difference (256 * high.toNat + low.toNat) offset) (pixel : Nat) :
    chromaAt start offset (high :: low :: rest) (pixel + 2) = chromaAt next offset rest pixel := by
  rw [chromaAt, chromaAt, Nat.add_mod_right, Nat.add_div_right pixel Nat.two_pos]
  simp only [chromaAfter_cons_succ hnext hchange]

/-! ## Pixels -/

theorem chromaAfter_zero (start : UInt8) (offset : Nat) (source : List UInt8) :
    chromaAfter start offset source 0 = start.toNat := by
  rw [chromaAfter, Finset.sum_range_zero, Nat.add_zero]
  exact Nat.mod_eq_of_lt start.toNat_lt

theorem chromaAfter_cons_one {start next change : UInt8} {offset : Nat}
    (hnext : next = start + change)
    (hchange : change.toNat = difference (256 * high.toNat + low.toNat) offset) :
    chromaAfter start offset (high :: low :: rest) 1 = next.toNat := by
  rw [chromaAfter_cons_succ hnext hchange, chromaAfter_zero]

theorem toNat_mean (first second : UInt8) :
    (mean first second).toNat = (first.toNat + second.toNat) / 2 := by
  have hfirst := first.toNat_lt
  have hsecond := second.toNat_lt
  rw [mean, Nat.toUInt8, UInt8.toNat_ofNat', Nat.mod_eq_of_lt (by omega)]

/-- The chroma differences of the first word. -/
theorem toNat_delta_u (high low : UInt8) :
    (delta high 4).toNat = difference (256 * high.toNat + low.toNat) 12 :=
  toNat_delta_high high low 4

theorem toNat_delta_v (high low : UInt8) :
    (delta low 4).toNat = difference (256 * high.toNat + low.toNat) 4 :=
  toNat_delta_low high low (Nat.le_refl 4)

theorem isSumAt_zero (seed : Yuv) (high low : UInt8) (rest : List UInt8) :
    IsSumAt seed (high :: low :: rest) 0 (seed.nextPair high low).1 where
  y := by
    rw [lumaAt, Finset.sum_range_one, lumaDifference_cons_zero]
    exact UInt8.toNat_add _ _
  u := by
    rw [chromaAt, if_neg (by decide), Nat.zero_div, chromaAfter_zero,
      chromaAfter_cons_one rfl (toNat_delta_u high low)]
    exact toNat_mean _ _
  v := by
    rw [chromaAt, if_neg (by decide), Nat.zero_div, chromaAfter_zero,
      chromaAfter_cons_one rfl (toNat_delta_v high low)]
    exact toNat_mean _ _

theorem isSumAt_one (seed : Yuv) (high low : UInt8) (rest : List UInt8) :
    IsSumAt seed (high :: low :: rest) 1 (seed.nextPair high low).2 where
  y := by
    have hnext : (seed.nextPair high low).2.y = seed.y + delta high 0 + delta low 0 := rfl
    rw [lumaAt, Finset.sum_range_succ, Finset.sum_range_one, lumaDifference_cons_zero,
      lumaDifference_cons_one, hnext, UInt8.toNat_add, UInt8.toNat_add]
    omega
  u := by
    rw [chromaAt, if_pos (by decide)]
    exact (chromaAfter_cons_one rfl (toNat_delta_u high low)).symm
  v := by
    rw [chromaAt, if_pos (by decide)]
    exact (chromaAfter_cons_one rfl (toNat_delta_v high low)).symm

theorem IsSumAt.cons_add_two {index : Nat} {pixel : Yuv}
    (h : IsSumAt (seed.nextPair high low).2 rest index pixel) :
    IsSumAt seed (high :: low :: rest) (index + 2) pixel where
  y := h.y.trans (lumaAt_cons_add_two seed high low rest index).symm
  u := h.u.trans (chromaAt_cons_add_two rfl (toNat_delta_u high low) index).symm
  v := h.v.trans (chromaAt_cons_add_two rfl (toNat_delta_v high low) index).symm

/-- Every pixel of the words of a source is the sum of what comes before it. -/
theorem getElem?_pixels (seed : Yuv) (source : List UInt8) {index : Nat}
    (hindex : index < 2 * (source.length / 2)) :
    ∃ pixel, (seed.pixels source)[index]? = some pixel ∧ IsSumAt seed source index pixel := by
  match source, index with
  | [], index => simp at hindex
  | [byte], index => simp at hindex
  | high :: low :: rest, 0 => exact ⟨_, rfl, isSumAt_zero seed high low rest⟩
  | high :: low :: rest, 1 => exact ⟨_, rfl, isSumAt_one seed high low rest⟩
  | high :: low :: rest, index + 2 =>
    have hrest : index < 2 * (rest.length / 2) := by
      simp only [List.length_cons] at hindex
      omega
    obtain ⟨pixel, hpixel, hsum⟩ := getElem?_pixels (seed.nextPair high low).2 rest hrest
    exact ⟨pixel, hpixel, hsum.cons_add_two⟩

/-- The pixels of the first words do not depend on what follows. -/
theorem pixels_take (seed : Yuv) (source : List UInt8) (words : Nat) :
    seed.pixels (source.take (2 * words)) = (seed.pixels source).take (2 * words) := by
  match source, words with
  | [], words => simp [pixels]
  | [byte], 0 => rfl
  | [byte], words + 1 => rfl
  | high :: low :: rest, 0 => rfl
  | high :: low :: rest, words + 1 =>
    rw [Nat.mul_succ, List.take_succ_cons, List.take_succ_cons, pixels, pixels,
      List.take_succ_cons, List.take_succ_cons, pixels_take]

/-! ## Colors -/

/-- The channel value nearest to an integer. -/
def nearestChannel (value : Int) : Int := max 0 (min 255 value)

/-- The opaque color of a luma and two chroma values. -/
structure IsColorOf (color : Color) (y u v : Int) : Prop where
  red : (color.red.toNat : Int) = nearestChannel (y + (351 * (v - 128)).tdiv 256)
  green : (color.green.toNat : Int) =
    nearestChannel (y - ((86 * (u - 128)).tdiv 256 + (179 * (v - 128)).tdiv 256))
  blue : (color.blue.toNat : Int) = nearestChannel (y + (444 * (u - 128)).tdiv 256)
  alpha : color.alpha = 255

theorem isColorOf_toColor (pixel : Yuv) :
    IsColorOf pixel.toColor pixel.y.toNat pixel.u.toNat pixel.v.toNat where
  red := Color.toNat_clampChannel _
  green := Color.toNat_clampChannel _
  blue := Color.toNat_clampChannel _
  alpha := rfl

end Yuv

/-- With two bytes for each pair of pixels a delta-coded line has, at every pixel, the color of the
luma and chroma that the prefix sums give there, shown as often as the resolution asks for, and
takes exactly those bytes. -/
theorem decodeDeltaYuv_eq_prefix_sums (seed : Yuv) (width : Nat) {source : List UInt8}
    (hsource : 2 * ((width + 1) / 2) ≤ source.length) :
    ∃ line, decodeDeltaYuv seed width source = .ok line ∧
      line.consumed = 2 * ((width + 1) / 2) ∧
      line.pixels.length = width ∧
      (∀ n < width, ∃ color, line.pixels[n]? = some color ∧
        Yuv.IsColorOf color (Yuv.lumaAt seed.y source n) (Yuv.chromaAt seed.u 12 source n)
          (Yuv.chromaAt seed.v 4 source n)) ∧
      ∀ depth, (PlaneLine.widen depth line.pixels).length = width * PlaneLine.copies depth ∧
        ∀ x, (PlaneLine.widen depth line.pixels)[x]? =
          line.pixels[x / PlaneLine.copies depth]? := by
  have hpairs : width ≤ 2 * pairCount width := le_two_mul_pairCount width
  have hline : decodeDeltaYuv seed width source =
      .ok ⟨((seed.pixels source).take width).map Yuv.toColor, 2 * pairCount width⟩ := by
    apply except_map_eq_ok_iff.mpr
    refine ⟨_, takeBytes_eq_ok_iff.mpr ⟨hsource, rfl⟩, ?_⟩
    rw [Yuv.pixels_take, List.take_take, Nat.min_eq_left hpairs]
  have hlength := length_decodeDeltaYuv hline
  refine ⟨_, hline, rfl, hlength, ?_, ?_⟩
  · intro n hn
    have hword : n < 2 * (source.length / 2) := by
      rw [pairCount] at hpairs
      omega
    obtain ⟨pixel, hpixel, hsum⟩ := seed.getElem?_pixels source hword
    refine ⟨pixel.toColor, ?_, ?_⟩
    · rw [List.getElem?_map, List.getElem?_take_of_lt hn, hpixel]
      rfl
    · rw [← hsum.y, ← hsum.u, ← hsum.v]
      exact pixel.isColorOf_toColor
  · intro depth
    refine ⟨?_, PlaneLine.getElem?_widen depth _⟩
    rw [PlaneLine.length_widen_eq_mul, hlength]

/-- An odd line whose luma passes 255 and goes on from zero, and whose first word changes chroma. -/
theorem decodeDeltaYuv_eq_prefix_sums_three :
    ∃ line, decodeDeltaYuv ⟨16, 128, 128⟩ 3 [0x28, 0x00, 0x0F, 0x0F, 7] = .ok line ∧
      line.consumed = 4 ∧ line.pixels.length = 3 ∧
      (∃ color, line.pixels[0]? = some color ∧ color.blue = 147) ∧
      ∃ color, line.pixels[2]? = some color ∧ color.red = 143 := by
  have hsource : 2 * ((3 + 1) / 2) ≤ ([0x28, 0x00, 0x0F, 0x0F, 7] : List UInt8).length := by decide
  obtain ⟨line, hline, hconsumed, hlength, hpixels, -⟩ :=
    decodeDeltaYuv_eq_prefix_sums ⟨16, 128, 128⟩ 3 hsource
  obtain ⟨first, hfirst, hcolor⟩ := hpixels 0 (by decide)
  obtain ⟨third, hthird, hlast⟩ := hpixels 2 (by decide)
  refine ⟨line, hline, hconsumed, hlength, ⟨first, hfirst, ?_⟩, third, hthird, ?_⟩
  · apply UInt8.toNat_inj.mp
    apply Int.natCast_inj.mp
    refine hcolor.blue.trans ?_
    decide
  · apply UInt8.toNat_inj.mp
    apply Int.natCast_inj.mp
    refine hlast.red.trans ?_
    decide

end DualPlaneVideo
