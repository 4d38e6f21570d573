import DualPlaneVideo.Proofs.Line.PlaneLine

/-!
# Held lines

Pixel hold overwrites a line in place. While it goes from left to right, what it has passed shows
the first pixel of its period and the rest is as it was, and the first pixel of a period is the only
one that is read again. So holding samples the line as it was, and of two holds the one with the
longer period decides if its period is a multiple of the other. A period is even, so a held line
shows the same color at both pixels of a position, as any line does that has been decoded at normal
resolution.
-/

namespace DualPlaneVideo

variable {pixels : Array Color} {factor : UInt8}

theorem holdPeriod_even (factor : UInt8) : holdPeriod factor % 2 = 0 :=
  Nat.mul_mod_right 2 _

/-- The place of the first pixel of the period that a pixel is in. -/
def periodStart (period x : Nat) : Nat := x - x % period

theorem periodStart_of_mod_eq_zero {period x : Nat} (h : x % period = 0) :
    periodStart period x = x := by
  rw [periodStart, h, Nat.sub_zero]

theorem periodStart_lt {period x : Nat} (h : x % period ≠ 0) : periodStart period x < x := by
  have hle := Nat.mod_le x period
  rw [periodStart]
  omega

theorem periodStart_mod (period x : Nat) : periodStart period x % period = 0 := by
  rw [periodStart, Nat.sub_mod_eq_zero_of_mod_eq (Nat.mod_mod x period).symm]

/-- Overwriting the next place keeps what the line shows at the places that have been passed. -/
theorem getElem?_holdPixel {held : Array Color} {period count : Nat} (hcount : count < pixels.size)
    (hsize : held.size = pixels.size)
    (hheld : ∀ x < pixels.size,
      held[x]? = if x < count then pixels[periodStart period x]? else pixels[x]?)
    {x : Nat} (hx : x < pixels.size) :
    (holdPixel period held count)[x]? =
      if x < count + 1 then pixels[periodStart period x]? else pixels[x]? := by
  have hlater (hne : x ≠ count) : held[x]? =
      if x < count + 1 then pixels[periodStart period x]? else pixels[x]? := by
    have hlt : x < count + 1 ↔ x < count := by omega
    simp only [hheld x hx, hlt]
  unfold holdPixel
  by_cases hfirst : count % period = 0
  · rw [if_pos hfirst]
    by_cases hhere : x = count
    · subst hhere
      rw [hheld x hx, if_neg (Nat.lt_irrefl x), if_pos (Nat.lt_succ_self x),
        periodStart_of_mod_eq_zero hfirst]
    · exact hlater hhere
  · rw [if_neg hfirst, Array.getElem?_setIfInBounds]
    by_cases hhere : x = count
    · subst hhere
      have hstart := periodStart_lt hfirst
      have hcopied : held[periodStart period x]? = pixels[periodStart period x]? := by
        rw [hheld _ (Nat.lt_trans hstart hx), if_pos hstart,
          periodStart_of_mod_eq_zero (periodStart_mod period x)]
      rw [if_pos rfl, if_pos (by rwa [hsize]), if_pos (Nat.lt_succ_self x), ← periodStart,
        Array.getD_eq_getD_getElem?, hcopied, Array.getElem?_eq_getElem (Nat.lt_trans hstart hx)]
      rfl
    · rw [if_neg (Ne.symm hhere)]
      exact hlater hhere

/-- Every pixel of a held line shows what the first one of its period showed. -/
theorem getElem?_holdLine (hperiod : holdPeriod factor ≠ 2) {x : Nat} (hx : x < pixels.size) :
    (holdLine factor pixels)[x]? = pixels[periodStart (holdPeriod factor) x]? := by
  have hfold : ∀ count ≤ pixels.size, ∀ x < pixels.size, (Nat.fold count
      (fun x _ held ↦ holdPixel (holdPeriod factor) held x) pixels)[x]? =
        if x < count then pixels[periodStart (holdPeriod factor) x]? else pixels[x]? := by
    intro count hcount
    induction count with
    | zero =>
      intro x _
      rw [if_neg (Nat.not_lt_zero x)]
      rfl
    | succ count ih =>
      intro x hx
      rw [Nat.fold_succ]
      exact getElem?_holdPixel hcount (size_holdFold _ pixels count) (ih (Nat.le_of_succ_le hcount))
        hx
  rw [holdLine, if_neg hperiod, hfold pixels.size (Nat.le_refl _) x hx, if_pos hx]

/-! ## Holding twice -/

theorem periodStart_le (period x : Nat) : periodStart period x ≤ x := Nat.sub_le x _

theorem periodStart_eq_div_mul (period x : Nat) : periodStart period x = x / period * period :=
  Nat.div_mul_self_eq_mod_sub_self.symm

/-- A period starts in the same multiple of the period as any of its pixels. -/
theorem periodStart_periodStart_of_dvd {period multiple : Nat} (h : period ∣ multiple) (x : Nat) :
    periodStart multiple (periodStart period x) = periodStart multiple x := by
  obtain ⟨periods, rfl⟩ := h
  rcases Nat.eq_zero_or_pos period with rfl | hpos
  · rw [Nat.zero_mul, periodStart_eq_div_mul, periodStart_eq_div_mul 0 x, Nat.mul_zero,
      Nat.mul_zero]
  · rw [periodStart_eq_div_mul, periodStart_eq_div_mul, periodStart_eq_div_mul,
      ← Nat.div_div_eq_div_mul, ← Nat.div_div_eq_div_mul, Nat.mul_div_cancel _ hpos]

/-- A multiple of a period starts where a period starts. -/
theorem periodStart_of_dvd_periodStart {period multiple : Nat} (h : period ∣ multiple) (x : Nat) :
    periodStart period (periodStart multiple x) = periodStart multiple x :=
  periodStart_of_mod_eq_zero
    (Nat.mod_eq_zero_of_dvd (Nat.dvd_trans h (Nat.dvd_of_mod_eq_zero (periodStart_mod multiple x))))

/-- The distance of the pixels that a hold leaves as they are: those of every period, or all of them
where the factor asks for no more than one pixel of normal resolution. -/
def sampleDistance (factor : UInt8) : Nat := if factor.toNat < 2 then 1 else 2 * factor.toNat

theorem holdPeriod_of_two_le (h : 2 ≤ factor.toNat) : holdPeriod factor = 2 * factor.toNat := by
  rw [holdPeriod, Nat.max_eq_left (by omega)]

theorem holdLine_of_lt_two (h : factor.toNat < 2) (pixels : Array Color) :
    holdLine factor pixels = pixels := by
  have hperiod : holdPeriod factor = 2 := by
    rw [holdPeriod, Nat.max_eq_right (by omega)]
  rw [holdLine, if_pos hperiod]

theorem getElem?_holdLine_sample (factor : UInt8) {x : Nat} (hx : x < pixels.size) :
    (holdLine factor pixels)[x]? = pixels[periodStart (sampleDistance factor) x]? := by
  unfold sampleDistance
  by_cases hfactor : factor.toNat < 2
  · rw [if_pos hfactor, holdLine_of_lt_two hfactor, periodStart_of_mod_eq_zero (Nat.mod_one x)]
  · have hperiod := holdPeriod_of_two_le (Nat.le_of_not_lt hfactor)
    rw [if_neg hfactor, getElem?_holdLine (by omega) hx, hperiod]

/-- Two holds are a third one if they sample the same pixels. -/
theorem holdLine_holdLine {first second third : UInt8}
    (h : ∀ x, periodStart (sampleDistance first) (periodStart (sampleDistance second) x) =
      periodStart (sampleDistance third) x) (pixels : Array Color) :
    holdLine second (holdLine first pixels) = holdLine third pixels := by
  apply Array.ext_getElem?
  intro x
  by_cases hx : x < pixels.size
  · have hstart : periodStart (sampleDistance second) x < pixels.size :=
      Nat.lt_of_le_of_lt (periodStart_le _ x) hx
    calc
      (holdLine second (holdLine first pixels))[x]? =
          (holdLine first pixels)[periodStart (sampleDistance second) x]? :=
        getElem?_holdLine_sample second (by rwa [size_holdLine])
      _ = pixels[periodStart (sampleDistance third) x]? := by
        rw [getElem?_holdLine_sample first hstart, h x]
      _ = (holdLine third pixels)[x]? := (getElem?_holdLine_sample third hx).symm
  · rw [Array.getElem?_eq_none (by rw [size_holdLine, size_holdLine]; omega),
      Array.getElem?_eq_none (by rw [size_holdLine]; omega)]

theorem sampleDistance_dvd {multiple : UInt8} {times : Nat} (htimes : 1 ≤ times)
    (hmultiple : multiple.toNat = times * factor.toNat) :
    sampleDistance factor ∣ sampleDistance multiple := by
  unfold sampleDistance
  by_cases hfactor : factor.toNat < 2
  · rw [if_pos hfactor]
    exact Nat.one_dvd _
  · have hle : factor.toNat ≤ multiple.toNat := by
      rw [hmultiple]
      exact Nat.le_mul_of_pos_left _ htimes
    rw [if_neg hfactor, if_neg (by omega), hmultiple, Nat.mul_left_comm]
    exact Nat.dvd_mul_left _ times

/-- Holding a line in place samples it as it was before: every pixel shows the first one of its
period, also where the line ends within a period, and a factor below two changes nothing. Holding
again changes nothing either, and a hold with a multiple of the factor, before or after, is the only
one of the two that counts. -/
theorem holdLine_samples (factor : UInt8) (pixels : Array Color) :
    (holdLine factor pixels).size = pixels.size ∧
      (2 ≤ factor.toNat → ∀ x < pixels.size,
        (holdLine factor pixels)[x]? = pixels[x - x % (2 * factor.toNat)]?) ∧
      (factor.toNat < 2 → holdLine factor pixels = pixels) ∧
      holdLine factor (holdLine factor pixels) = holdLine factor pixels ∧
      ∀ times, 1 ≤ times → ∀ multiple : UInt8, multiple.toNat = times * factor.toNat →
        holdLine multiple (holdLine factor pixels) = holdLine multiple pixels ∧
          holdLine factor (holdLine multiple pixels) = holdLine multiple pixels := by
  refine ⟨size_holdLine factor pixels, ?_, fun hfactor ↦ holdLine_of_lt_two hfactor pixels, ?_, ?_⟩
  · intro hfactor x hx
    have hperiod := holdPeriod_of_two_le hfactor
    rw [getElem?_holdLine (by omega) hx, hperiod, periodStart]
  · exact holdLine_holdLine (periodStart_periodStart_of_dvd (Nat.dvd_refl _)) pixels
  · intro times htimes multiple hmultiple
    have hdvd := sampleDistance_dvd htimes hmultiple
    exact ⟨holdLine_holdLine (periodStart_of_dvd_periodStart hdvd) pixels,
      holdLine_holdLine (periodStart_periodStart_of_dvd hdvd) pixels⟩

/-- A line of seven pixels, which ends within a period of four and in the first one of eight. -/
def sevenGrays : Array Color := Array.ofFn fun x : Fin 7 ↦ Color.solid x.val.toUInt8 0 0

theorem holdLine_samples_seven_grays :
    2 ≤ (2 : UInt8).toNat ∧ (4 : UInt8).toNat = 2 * (2 : UInt8).toNat ∧
      (holdLine 2 sevenGrays)[6]? = sevenGrays[4]? ∧
      (0 : UInt8).toNat < 2 ∧ holdLine 0 sevenGrays = sevenGrays ∧
      holdLine 4 (holdLine 2 sevenGrays) = holdLine 4 sevenGrays ∧
      holdLine 2 (holdLine 4 sevenGrays) = holdLine 4 sevenGrays := by
  obtain ⟨-, hsample, -, -, hmultiple⟩ := holdLine_samples 2 sevenGrays
  obtain ⟨-, -, hkept, -, -⟩ := holdLine_samples 0 sevenGrays
  obtain ⟨hafter, hbefore⟩ := hmultiple 2 (by decide) 4 rfl
  exact ⟨by decide, rfl, hsample (by decide) 6 (by decide), by decide, hkept (by decide), hafter,
    hbefore⟩

/-! ## Pairs of pixels -/

/-- Both pixels of every position show the same color. -/
def IsPaired (pixels : Array Color) : Prop :=
  ∀ position, pixels[2 * position + 1]? = pixels[2 * position]?

theorem isPaired_replicate (positions : Nat) (color : Color) :
    IsPaired (Array.replicate (2 * positions) color) := by
  intro position
  have hpair : 2 * position + 1 < 2 * positions ↔ 2 * position < 2 * positions := by omega
  simp only [Array.getElem?_replicate, hpair]

theorem PlaneLine.isPaired_widen (pixels : List Color) :
    IsPaired (widen .normal8 pixels).toArray := by
  intro position
  have hodd : (2 * position + 1) / 2 = 2 * position / 2 := by omega
  rw [List.getElem?_toArray, List.getElem?_toArray, getElem?_widen, getElem?_widen]
  exact congrArg (pixels[·]?) hodd

/-- Both pixels of a position are in the same period, since it is even. -/
theorem periodStart_pair {period : Nat} (hperiod : period % 2 = 0) (position : Nat) :
    periodStart period (2 * position + 1) = periodStart period (2 * position) := by
  obtain ⟨factor, rfl⟩ := Nat.dvd_of_mod_eq_zero hperiod
  rcases Nat.eq_zero_or_pos factor with rfl | hpos
  · rw [periodStart, periodStart, Nat.mul_zero, Nat.mod_zero, Nat.mod_zero, Nat.sub_self,
      Nat.sub_self]
  · have hsecond : (2 * position + 1) % (2 * factor) = 2 * (position % factor) + 1 := by
      have hlt := Nat.mod_lt position hpos
      have hsplit : 2 * position + 1 =
          2 * factor * (position / factor) + (2 * (position % factor) + 1) := by
        calc
          2 * position + 1 = 2 * (factor * (position / factor) + position % factor) + 1 := by
            rw [Nat.div_add_mod]
          _ = 2 * factor * (position / factor) + (2 * (position % factor) + 1) := by
            rw [Nat.mul_add, ← Nat.mul_assoc, Nat.add_assoc]
      rw [hsplit, Nat.mul_add_mod, Nat.mod_eq_of_lt (by omega)]
    rw [periodStart, periodStart, hsecond, Nat.mul_mod_mul_left, Nat.add_sub_add_right]

/-- Holding keeps pairs, whatever the factor. -/
theorem IsPaired.holdLine (h : IsPaired pixels) (factor : UInt8) :
    IsPaired (holdLine factor pixels) := by
  by_cases hperiod : holdPeriod factor = 2
  · rwa [DualPlaneVideo.holdLine, if_pos hperiod]
  · intro position
    by_cases hin : 2 * position + 1 < pixels.size
    · rw [getElem?_holdLine hperiod hin, getElem?_holdLine hperiod (Nat.lt_of_succ_lt hin),
        periodStart_pair (holdPeriod_even factor)]
    · have hpair := h position
      rw [Array.getElem?_eq_none (Nat.le_of_not_lt hin)] at hpair
      have hout := Array.getElem?_eq_none_iff.mp hpair.symm
      rw [Array.getElem?_eq_none, Array.getElem?_eq_none]
      · rwa [size_holdLine]
      · rw [size_holdLine]
        exact Nat.le_of_not_lt hin

theorem PlaneLine.isPaired_ofDecoded {parameters : DisplayParameters}
    (hdepth : parameters.depth = .normal8) (line : DecodedLine) :
    IsPaired (ofDecoded parameters line).pixels := by
  have hwidened : IsPaired (widen parameters.depth line.pixels).toArray := by
    rw [hdepth]
    exact isPaired_widen line.pixels
  unfold ofDecoded
  dsimp only
  split
  · exact hwidened.holdLine _
  · exact hwidened

end DualPlaneVideo
