import DualPlaneVideo.Decoder.Scan
import DualPlaneVideo.Proofs.Arithmetic.Calculation
import DualPlaneVideo.Proofs.Matte.Walk

/-!
# The arithmetic of scanning a line

At each position of a line the matte goes on in its command table, and two pixels are weighted and
added; those of odd places are calculated also for a screen that does not show them. All of this is
in range for any pixels, factors and commands.
-/

namespace DualPlaneVideo

/-! ## Compositing -/

namespace Compositing

def channelCalculations (factor channel : UInt8) : List Calculation :=
  let weight : Int := min factor.toNat fullFactor
  let distance : Int := channel.toNat - blackLevel
  [⟨.int32, distance⟩, ⟨.int32, weight * distance⟩,
    ⟨.int32, (weight * distance).tdiv fullFactor + blackLevel⟩]

theorem allFit_channelCalculations (factor channel : UInt8) :
    AllFit (channelCalculations factor channel) := by
  have hchannel := channel.toNat_lt
  unfold channelCalculations
  extract_lets weight distance
  have hweight : weight.natAbs ≤ 63 := by
    simp only [weight, fullFactor]
    omega
  have hdistance : distance.natAbs ≤ 239 := by
    simp only [distance, blackLevel]
    omega
  have hproduct : (weight * distance).natAbs ≤ 63 * 239 := by
    rw [Int.natAbs_mul]
    exact Nat.mul_le_mul hweight hdistance
  have hquotient := Nat.le_trans (Int.natAbs_tdiv_le_natAbs _ (fullFactor : Int)) hproduct
  simp only [allFit_cons, allFit_nil, and_true, Calculation.fits_int32, blackLevel]
  omega

/-- The three channels of a weighted color. -/
def weightedCalculations (color : Color) (factor : UInt8) : List Calculation :=
  [color.red, color.green, color.blue].flatMap (channelCalculations factor)

theorem allFit_weightedCalculations (color : Color) (factor : UInt8) :
    AllFit (weightedCalculations color factor) := by
  rw [weightedCalculations, allFit_flatMap]
  exact fun channel _ ↦ allFit_channelCalculations factor channel

def sumCalculations (a b : UInt8) : List Calculation :=
  [⟨.int32, a.toNat + b.toNat⟩, ⟨.int32, a.toNat + b.toNat - blackLevel⟩]

theorem allFit_sumCalculations (a b : UInt8) : AllFit (sumCalculations a b) := by
  have ha := a.toNat_lt
  have hb := b.toNat_lt
  simp only [sumCalculations, allFit_cons, allFit_nil, and_true, Calculation.fits_int32, blackLevel]
  omega

def compositeCalculations (pixels : PerPlane Color) (factors : PerPlane UInt8)
    (layering : Layering) : List Calculation :=
  if layering.mixes then
    let shown (pixel : Color) := if pixel.isTransparent then neutral else pixel
    let a := share pixels.a factors.a
    let b := share pixels.b factors.b
    weightedCalculations (shown pixels.a) factors.a ++
      weightedCalculations (shown pixels.b) factors.b ++
      sumCalculations a.red b.red ++ sumCalculations a.green b.green ++
      sumCalculations a.blue b.blue
  else
    let front := layering.front
    if !(pixels.get front).isTransparent then
      weightedCalculations (pixels.get front) (factors.get front)
    else if !(pixels.get front.other).isTransparent then
      weightedCalculations (pixels.get front.other) (factors.get front.other)
    else []

theorem allFit_compositeCalculations (pixels : PerPlane Color) (factors : PerPlane UInt8)
    (layering : Layering) : AllFit (compositeCalculations pixels factors layering) := by
  unfold compositeCalculations
  split
  · simp only [allFit_append]
    exact ⟨⟨⟨⟨allFit_weightedCalculations _ _, allFit_weightedCalculations _ _⟩,
      allFit_sumCalculations _ _⟩, allFit_sumCalculations _ _⟩, allFit_sumCalculations _ _⟩
  · dsimp only
    split
    · exact allFit_weightedCalculations _ _
    · split
      · exact allFit_weightedCalculations _ _
      · exact allFit_nil

end Compositing

/-! ## The matte -/

namespace MatteState

/-- The place behind a command that one plane runs. A command that ends the matte moves on to the
end of its part at once. -/
def planeCalculations (commands : Vector Word 8) (position : Nat) (state : MatteState)
    (plane : Plane) : List Calculation :=
  match (state.walks.get plane).command? commands with
  | none => []
  | some command =>
    if position < MatteCommand.position command ∨ MatteCommand.action command = .terminate then []
    else [⟨.usize, (state.walks.get plane).index + 1⟩]

theorem allFit_planeCalculations (commands : Vector Word 8) (position : Nat) (state : MatteState)
    (plane : Plane) : AllFit (state.planeCalculations commands position plane) := by
  unfold planeCalculations
  split
  · exact allFit_nil
  · rename_i command hcommand
    have hindex : (state.walks.get plane).index < 8 := by
      unfold MatteWalk.command? at hcommand
      split at hcommand
      · exact (Vector.getElem?_eq_some_iff.mp hcommand).1
      · cases hcommand
    split
    · exact allFit_nil
    · simp only [allFit_cons, allFit_nil, and_true, Calculation.fits_usize]
      omega

def stepCalculations (commands : Vector Word 8) (state : MatteState) (position : Nat) :
    List Calculation :=
  state.planeCalculations commands position .a ++
    (stepPlane commands position state .a).planeCalculations commands position .b

theorem allFit_stepCalculations (commands : Vector Word 8) (state : MatteState)
    (position : Nat) : AllFit (state.stepCalculations commands position) := by
  rw [stepCalculations, allFit_append]
  exact ⟨allFit_planeCalculations _ _ _ _, allFit_planeCalculations _ _ _ _⟩

end MatteState

/-! ## Lines -/

namespace LineView

/-- The screen color at plane pixel `x`. -/
def screenCalculations (view : LineView) (lines : PerPlane (Array Color)) (matte : MatteState)
    (x : Nat) : List Calculation :=
  let pixel (plane : Plane) := view.resolved matte plane ((lines.get plane).getD x .transparent)
  Compositing.compositeCalculations (.ofFn pixel) matte.factors view.layering

/-- The positions of a line, each with the matte as the ones before have left it. -/
def scanCalculations (view : LineView) (lines : PerPlane (Array Color)) (matte : MatteState)
    (positions : Nat) : List Calculation :=
  (List.range positions).flatMap fun position ↦
    let reached := matte.run view.commands position
    let stepped := reached.step view.commands position
    reached.stepCalculations view.commands position ++
      view.screenCalculations lines stepped (2 * position) ++
      view.screenCalculations lines stepped (2 * position + 1)

theorem allFit_scanCalculations (view : LineView) (lines : PerPlane (Array Color))
    (matte : MatteState) (positions : Nat) :
    AllFit (view.scanCalculations lines matte positions) := by
  have hscreen (state : MatteState) (x : Nat) : AllFit (view.screenCalculations lines state x) :=
    Compositing.allFit_compositeCalculations _ _ _
  simp only [scanCalculations, allFit_flatMap, allFit_append]
  intro position _
  exact ⟨⟨MatteState.allFit_stepCalculations _ _ _, hscreen _ _⟩, hscreen _ _⟩

end LineView

end DualPlaneVideo
