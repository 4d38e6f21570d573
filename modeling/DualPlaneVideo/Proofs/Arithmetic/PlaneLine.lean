import DualPlaneVideo.Line.PlaneLine
import DualPlaneVideo.Proofs.Arithmetic.Calculation
import DualPlaneVideo.Proofs.Line.PlaneLine

/-!
# The arithmetic of plane lines

Decoding a line calculates places in the line and in its source, palette indices and, for delta-coded
images, sums of luma and chroma. The places are bounded by the width of the line and the length of
the source; everything else follows from the bytes and is in range whatever these are.
-/

namespace DualPlaneVideo

/-! ## Places of pixels -/

/-- How many pixels of a plane line stand for a decoded one. -/
def PixelDepth.repeats (depth : PixelDepth) : Nat := if depth.isDouble then 1 else 2

theorem PixelDepth.repeats_le (depth : PixelDepth) : depth.repeats ≤ 2 := by
  cases depth <;> decide

/-- The places where decoded pixel `x` is written. -/
def pixelCalculations (depth : PixelDepth) (x : Nat) : List Calculation :=
  if depth.isDouble then [] else [⟨.usize, 2 * x⟩, ⟨.usize, 2 * x + 1⟩]

theorem allFit_pixelCalculations {depth : PixelDepth} {x : Nat} (hx : x ≤ 0x10000000) :
    AllFit (pixelCalculations depth x) := by
  unfold pixelCalculations
  split
  · simp
  · simp only [allFit_cons, allFit_nil, Calculation.fits_usize, and_true]
    omega

/-- The places of all decoded pixels of a line. -/
def pixelsCalculations (depth : PixelDepth) (width : Nat) : List Calculation :=
  (List.range width).flatMap (pixelCalculations depth)

theorem allFit_pixelsCalculations {depth : PixelDepth} {width : Nat} (h : width ≤ 0x10000000) :
    AllFit (pixelsCalculations depth width) := by
  rw [pixelsCalculations, allFit_flatMap]
  intro x hx
  exact allFit_pixelCalculations (Nat.le_trans (Nat.le_of_lt (List.mem_range.mp hx)) h)

/-- The second places of the pairs that cover a line. -/
def secondPlaces (width : Nat) : List Calculation :=
  (List.range (pairCount width)).map fun pair : Nat ↦ ⟨.usize, 2 * pair + 1⟩

theorem allFit_secondPlaces {width : Nat} (h : width ≤ 0x10000000) :
    AllFit (secondPlaces width) := by
  rw [secondPlaces, allFit_map]
  intro pair hpair
  have hcovers : pair < (width + 1) / 2 := List.mem_range.mp hpair
  rw [Calculation.fits_usize]
  omega

/-! ## Palette images -/

/-- The palette index of a code, which starts from the half that the plane selects from. -/
def PaletteView.indexCalculation (view : PaletteView) (code : UInt8) : Calculation :=
  ⟨.usize, view.index code⟩

theorem PaletteView.fits_indexCalculation (view : PaletteView) (code : UInt8) :
    (view.indexCalculation code).Fits := by
  have hcode := code.toNat_lt
  have hseven : bitField code.toNat 0 7 < 128 := bitField_lt code.toNat 0 7
  have hindex : view.index code < 256 := by
    cases view <;> simp only [PaletteView.index] <;> omega
  rw [indexCalculation, Calculation.fits_usize]
  omega

def indexedCalculations (view : PaletteView) (nibbles : Bool) (depth : PixelDepth) (width : Nat)
    (source : List UInt8) : List Calculation :=
  let bytes := source.take (codeBytes nibbles width)
  let codes := if nibbles then (bytes.flatMap nibblesOf).take width else bytes
  pixelsCalculations depth width ++ codes.map view.indexCalculation ++
    if nibbles then secondPlaces width else []

theorem allFit_indexedCalculations (view : PaletteView) (nibbles : Bool) (depth : PixelDepth)
    {width : Nat} (h : width ≤ 0x10000000) (source : List UInt8) :
    AllFit (indexedCalculations view nibbles depth width source) := by
  simp only [indexedCalculations, allFit_append, allFit_map]
  refine ⟨⟨allFit_pixelsCalculations h, fun code _ ↦ view.fits_indexCalculation code⟩, ?_⟩
  split
  · exact allFit_secondPlaces h
  · exact allFit_nil

/-! ## Run-length images -/

namespace RunForm

/-- A run of `count` repetitions at place `x` of a line. -/
def runCalculations (form : RunForm) (view : PaletteView) (depth : PixelDepth)
    (width x : Nat) (byte : UInt8) (count : Nat) : List Calculation :=
  ⟨.usize, (width : Int) - x⟩ :: (form.codes byte).map view.indexCalculation ++
    match form with
    | single =>
      let stop := x + min count (width - x)
      [⟨.usize, stop⟩, ⟨.usize, (x * depth.repeats : Nat)⟩, ⟨.usize, (stop * depth.repeats : Nat)⟩]
    | paired =>
      (List.range (min count (pairCount (width - x)))).flatMap fun pair ↦
        -- The place behind the last pair of an odd line is one past its end.
        let place := x + 2 * pair
        ⟨.usize, place + 1⟩ :: ⟨.usize, place + 2⟩ :: pixelCalculations depth place ++
          if place + 1 < width then pixelCalculations depth (place + 1) else []

theorem allFit_runCalculations (form : RunForm) (view : PaletteView) (depth : PixelDepth)
    {width x : Nat} (byte : UInt8) (count : Nat) (hwidth : width ≤ 0x10000000) (hx : x ≤ width) :
    AllFit (form.runCalculations view depth width x byte count) := by
  have hroom : Calculation.Fits ⟨.usize, (width : Int) - x⟩ := by
    rw [Calculation.fits_usize]
    omega
  simp only [runCalculations, List.cons_append, allFit_cons, allFit_append, allFit_map]
  refine ⟨hroom, fun code _ ↦ view.fits_indexCalculation code, ?_⟩
  cases form with
  | single =>
    have hstop : x + min count (width - x) ≤ width := by omega
    have hplace (place : Nat) (hle : place ≤ width) :
        Calculation.Fits ⟨.usize, (place * depth.repeats : Nat)⟩ := by
      have hrepeats : place * depth.repeats ≤ 0x10000000 * 2 :=
        Nat.mul_le_mul (Nat.le_trans hle hwidth) depth.repeats_le
      rw [Calculation.fits_usize]
      omega
    simp only [allFit_cons, allFit_nil, and_true]
    refine ⟨?_, hplace x hx, hplace _ hstop⟩
    rw [Calculation.fits_usize]
    omega
  | paired =>
    simp only [allFit_flatMap, allFit_cons, allFit_append]
    intro pair hpair
    have hcovers : pair < (width - x + 1) / 2 :=
      Nat.lt_of_lt_of_le (List.mem_range.mp hpair) (Nat.min_le_right _ _)
    refine ⟨?_, ?_, allFit_pixelCalculations (by omega), ?_⟩
    · rw [Calculation.fits_usize]
      omega
    · rw [Calculation.fits_usize]
      omega
    · split
      · exact allFit_pixelCalculations (by omega)
      · exact allFit_nil

/-- The rest of a line with room for `room` more pixels, after `taken` bytes of the source. -/
def lineCalculations (form : RunForm) (view : PaletteView) (depth : PixelDepth)
    (width room taken : Nat) (source : List UInt8) : List Calculation :=
  if room = 0 then []
  else
    match source with
    | [] => []
    | byte :: rest =>
      if byte.toNat.testBit 7 then
        match rest with
        | [] => [⟨.usize, taken + 1⟩]
        | count :: rest =>
          let run := form.expand byte (repeats count room) room
          ⟨.usize, taken + 1⟩ :: ⟨.usize, taken + 2⟩ ::
            form.runCalculations view depth width (width - room) byte (repeats count room) ++
            form.lineCalculations view depth width (room - run.length) (taken + 2) rest
      else
        let run := form.expand byte 1 room
        ⟨.usize, taken + 1⟩ ::
          form.runCalculations view depth width (width - room) byte 1 ++
          form.lineCalculations view depth width (room - run.length) (taken + 1) rest

/-- No place is behind the end of the line or of the source. -/
theorem allFit_lineCalculations (form : RunForm) (view : PaletteView) (depth : PixelDepth)
    {width room taken : Nat} {source : List UInt8} (hwidth : width ≤ 0x10000000)
    (hroom : room ≤ width) (hlength : taken + source.length ≤ 0x10000000) :
    AllFit (form.lineCalculations view depth width room taken source) := by
  have hrun (left : Nat) (byte : UInt8) (count : Nat) :
      AllFit (form.runCalculations view depth width (width - left) byte count) :=
    form.allFit_runCalculations view depth byte count hwidth (Nat.sub_le _ _)
  have hplace (place : Nat) (hle : place < 0x10000000) : Calculation.Fits ⟨.usize, place + 1⟩ := by
    rw [Calculation.fits_usize]
    omega
  fun_induction lineCalculations form view depth width room taken source with
  | case1 => exact allFit_nil
  | case2 => exact allFit_nil
  | case3 room taken _ byte _ =>
    simp only [List.length_cons] at hlength
    rw [allFit_cons]
    exact ⟨hplace taken (by omega), allFit_nil⟩
  | case4 room taken _ byte _ count rest run ih =>
    simp only [List.length_cons] at hlength
    simp only [List.cons_append, allFit_cons, allFit_append]
    refine ⟨hplace taken (by omega), ?_, hrun room byte _, ih (by omega) (by omega)⟩
    exact hplace (taken + 1) (by omega)
  | case5 room taken _ byte rest _ run ih =>
    simp only [List.length_cons] at hlength
    simp only [List.cons_append, allFit_cons, allFit_append]
    exact ⟨hplace taken (by omega), hrun room byte 1, ih (by omega) (by omega)⟩

end RunForm

/-! ## Delta-coded images -/

namespace Yuv

/-- The products that a color needs of a chroma value. They are calculated once for all values. -/
def productCalculations : List Calculation :=
  [351, 179, 86, 444].flatMap fun weight : Int ↦
    (List.range 256).flatMap fun chroma : Nat ↦
      [⟨.int32, (chroma : Int) - 128⟩, ⟨.int32, weight * ((chroma : Int) - 128)⟩]

theorem allFit_productCalculations : AllFit productCalculations := by
  rw [productCalculations, allFit_flatMap]
  intro weight hweight
  rw [allFit_flatMap]
  intro chroma hchroma
  have hvalue : chroma < 256 := List.mem_range.mp hchroma
  have hsize : (weight * ((chroma : Int) - 128)).natAbs ≤ 444 * 128 := by
    rw [Int.natAbs_mul]
    have hlargest : weight.natAbs ≤ 444 := by
      revert weight
      decide
    exact Nat.mul_le_mul hlargest (by omega)
  simp only [allFit_cons, allFit_nil, and_true, Calculation.fits_int32]
  omega

/-- A color channel is a byte of luma and at most 222 for each chroma value. -/
theorem natAbs_chromaTerm_le (weight : Int) (hweight : weight.natAbs ≤ 444) (chroma : UInt8) :
    (chromaTerm weight chroma).natAbs ≤ 222 := by
  have hchroma := chroma.toNat_lt
  have hshift : ((chroma.toNat : Int) - 128).natAbs ≤ 128 := by omega
  calc
    (chromaTerm weight chroma).natAbs =
        weight.natAbs * ((chroma.toNat : Int) - 128).natAbs / 256 := by
      rw [chromaTerm, Int.natAbs_tdiv, Int.natAbs_mul]
      rfl
    _ ≤ 444 * 128 / 256 := Nat.div_le_div_right (Nat.mul_le_mul hweight hshift)
    _ = 222 := rfl

def colorCalculations (pixel : Yuv) : List Calculation :=
  let y : Int := pixel.y.toNat
  let green := chromaTerm 86 pixel.u + chromaTerm 179 pixel.v
  [⟨.int16, y + chromaTerm 351 pixel.v⟩, ⟨.int16, green⟩, ⟨.int16, y - green⟩,
    ⟨.int16, y + chromaTerm 444 pixel.u⟩]

theorem allFit_colorCalculations (pixel : Yuv) : AllFit pixel.colorCalculations := by
  have hluma := pixel.y.toNat_lt
  have hred := natAbs_chromaTerm_le 351 (by decide) pixel.v
  have hgreenU := natAbs_chromaTerm_le 86 (by decide) pixel.u
  have hgreenV := natAbs_chromaTerm_le 179 (by decide) pixel.v
  have hblue := natAbs_chromaTerm_le 444 (by decide) pixel.u
  simp only [colorCalculations, allFit_cons, allFit_nil, and_true, Calculation.fits_int16]
  omega

/-- The sums of old and new chroma, and the colors of both pixels, for a list of pairs. -/
def pairsCalculations (last : Yuv) : List UInt8 → List Calculation
  | high :: low :: rest =>
    let pair := last.nextPair high low
    ⟨.uint16, (last.u.toNat + pair.2.u.toNat : Nat)⟩ ::
      ⟨.uint16, (last.v.toNat + pair.2.v.toNat : Nat)⟩ ::
      pair.1.colorCalculations ++ pair.2.colorCalculations ++ pair.2.pairsCalculations rest
  | _ => []

theorem allFit_pairsCalculations (last : Yuv) (bytes : List UInt8) :
    AllFit (last.pairsCalculations bytes) := by
  have hsum (old new : UInt8) :
      Calculation.Fits ⟨.uint16, (old.toNat + new.toNat : Nat)⟩ := by
    have hold := old.toNat_lt
    have hnew := new.toNat_lt
    rw [Calculation.fits_uint16]
    omega
  fun_induction pairsCalculations last bytes with
  | case1 last high low rest pair ih =>
    simp only [List.cons_append, allFit_cons, allFit_append]
    exact ⟨hsum _ _, hsum _ _,
      ⟨pair.1.allFit_colorCalculations, pair.2.allFit_colorCalculations⟩, ih⟩
  | case2 => exact allFit_nil

end Yuv

def deltaYuvCalculations (seed : Yuv) (depth : PixelDepth) (width : Nat) (source : List UInt8) :
    List Calculation :=
  ⟨.usize, 2 * pairCount width⟩ :: pixelsCalculations depth width ++ secondPlaces width ++
    Yuv.productCalculations ++ seed.pairsCalculations (source.take (2 * pairCount width))

theorem allFit_deltaYuvCalculations (seed : Yuv) (depth : PixelDepth) {width : Nat}
    (h : width ≤ 0x10000000) (source : List UInt8) :
    AllFit (deltaYuvCalculations seed depth width source) := by
  have hbytes : Calculation.Fits ⟨.usize, 2 * pairCount width⟩ := by
    rw [Calculation.fits_usize, pairCount]
    omega
  simp only [deltaYuvCalculations, List.cons_append, allFit_cons, allFit_append]
  exact ⟨hbytes, ⟨⟨allFit_pixelsCalculations h, allFit_secondPlaces h⟩,
    Yuv.allFit_productCalculations⟩, seed.allFit_pairsCalculations _⟩

/-! ## Pixel hold -/

/-- The period of a hold factor, and the place that each of `size` pixels is copied from. -/
def holdCalculations (factor : UInt8) (size : Nat) : List Calculation :=
  ⟨.usize, holdPeriod factor⟩ ::
    if holdPeriod factor = 2 then []
    else (List.range size).map fun x : Nat ↦ ⟨.usize, (x : Int) - (x % holdPeriod factor : Nat)⟩

theorem allFit_holdCalculations (factor : UInt8) {size : Nat} (h : size ≤ 0x20000000) :
    AllFit (holdCalculations factor size) := by
  have hperiod : Calculation.Fits ⟨.usize, holdPeriod factor⟩ := by
    have hfactor := factor.toNat_lt
    rw [Calculation.fits_usize, holdPeriod]
    omega
  rw [holdCalculations, allFit_cons]
  refine ⟨hperiod, ?_⟩
  split
  · exact allFit_nil
  · rw [allFit_map]
    intro x hx
    have hplace : x < size := List.mem_range.mp hx
    have hrest := Nat.mod_le x (holdPeriod factor)
    rw [Calculation.fits_usize]
    omega

/-! ## Plane lines -/

namespace PlaneLine

/-- Pixel hold on a plane line, if the parameters ask for it. -/
def heldCalculations (parameters : DisplayParameters) (baseWidth : Nat) : List Calculation :=
  if parameters.holdEnabled then holdCalculations parameters.holdFactor (2 * baseWidth) else []

/-- A line of direct color, which takes the place of both planes. -/
def combinedCalculations (parameters : DisplayParameters) (baseWidth : Nat) : List Calculation :=
  let width := decodedWidth parameters.depth baseWidth
  ⟨.usize, width⟩ :: pixelsCalculations parameters.depth width ++
    heldCalculations parameters baseWidth

/-- The image of a plane that is decoded from the plane's own source. -/
def imageCalculations (registers : RegisterFile) (plane : Plane) (width : Nat)
    (source : List UInt8) : List Calculation :=
  let method := registers.codingMethod plane
  let parameters := registers.parameters.get plane
  let view := PaletteView.ofMethod method plane (ImageCoding.highBank registers.imageCoding)
  match parameters.kind with
  | .mosaic => []
  | .runLength =>
    (RunForm.ofDepth parameters.depth).lineCalculations view parameters.depth width width 0 source
  | .normal =>
    match method with
    | .off | .rgb555 => []
    | .dyuv =>
      deltaYuvCalculations (.ofSeed (registers.yuvSeed.get plane)) parameters.depth width source
    | .clut8 | .clut7 | .clut77 | .clut4 =>
      indexedCalculations view (method == .clut4) parameters.depth width source

/-- A plane that shows an image of its own. A mosaic fails before it is held. -/
def ownCalculations (registers : RegisterFile) (plane : Plane) (baseWidth : Nat)
    (source : List UInt8) : List Calculation :=
  let parameters := registers.parameters.get plane
  let width := decodedWidth parameters.depth baseWidth
  ⟨.usize, width⟩ :: imageCalculations registers plane width source ++
    if parameters.kind = .mosaic then [] else heldCalculations parameters baseWidth

def decodeCalculations (registers : RegisterFile) (plane : Plane) (baseWidth : Nat)
    (sources : PerPlane (List UInt8)) : List Calculation :=
  if registers.codingMethod .b = .rgb555 then
    combinedCalculations registers.parameters.b baseWidth
  else if registers.codingMethod plane = .off then []
  else ownCalculations registers plane baseWidth (sources.get plane)

variable {registers : RegisterFile} {plane : Plane} {baseWidth width : Nat}

theorem fits_decodedWidth (depth : PixelDepth) (h : baseWidth ≤ 0x8000000) :
    decodedWidth depth baseWidth ≤ 0x10000000 ∧
      Calculation.Fits ⟨.usize, decodedWidth depth baseWidth⟩ := by
  have hwidth : decodedWidth depth baseWidth ≤ 2 * baseWidth := decodedWidth_le depth baseWidth
  rw [Calculation.fits_usize]
  omega

theorem allFit_heldCalculations (parameters : DisplayParameters) (h : baseWidth ≤ 0x8000000) :
    AllFit (heldCalculations parameters baseWidth) := by
  unfold heldCalculations
  split
  · exact allFit_holdCalculations _ (by omega)
  · exact allFit_nil

theorem allFit_combinedCalculations (parameters : DisplayParameters) (h : baseWidth ≤ 0x8000000) :
    AllFit (combinedCalculations parameters baseWidth) := by
  obtain ⟨hwidth, hfits⟩ := fits_decodedWidth parameters.depth h
  simp only [combinedCalculations, List.cons_append, allFit_cons, allFit_append]
  exact ⟨hfits, allFit_pixelsCalculations hwidth, allFit_heldCalculations parameters h⟩

theorem allFit_imageCalculations (hwidth : width ≤ 0x10000000) {source : List UInt8}
    (hlength : source.length ≤ 0x10000000) :
    AllFit (imageCalculations registers plane width source) := by
  unfold imageCalculations
  dsimp only
  cases (registers.parameters.get plane).kind with
  | mosaic => exact allFit_nil
  | runLength =>
    exact RunForm.allFit_lineCalculations _ _ _ hwidth (Nat.le_refl _) (by omega)
  | normal =>
    cases registers.codingMethod plane with
    | off => exact allFit_nil
    | rgb555 => exact allFit_nil
    | dyuv => exact allFit_deltaYuvCalculations _ _ hwidth source
    | clut8 => exact allFit_indexedCalculations _ _ _ hwidth source
    | clut7 => exact allFit_indexedCalculations _ _ _ hwidth source
    | clut77 => exact allFit_indexedCalculations _ _ _ hwidth source
    | clut4 => exact allFit_indexedCalculations _ _ _ hwidth source

theorem allFit_decodeCalculations (hwidth : baseWidth ≤ 0x8000000)
    {sources : PerPlane (List UInt8)}
    (hlength : ∀ plane, (sources.get plane).length ≤ 0x10000000) :
    AllFit (decodeCalculations registers plane baseWidth sources) := by
  unfold decodeCalculations
  split
  · exact allFit_combinedCalculations _ hwidth
  · split
    · exact allFit_nil
    · obtain ⟨hdecoded, hfits⟩ :=
        fits_decodedWidth (registers.parameters.get plane).depth hwidth
      simp only [ownCalculations, List.cons_append, allFit_cons, allFit_append]
      refine ⟨hfits, allFit_imageCalculations hdecoded (hlength plane), ?_⟩
      split
      · exact allFit_nil
      · exact allFit_heldCalculations _ hwidth

end PlaneLine

end DualPlaneVideo
