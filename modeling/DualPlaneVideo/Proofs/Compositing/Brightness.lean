import DualPlaneVideo.Proofs.Compositing

/-!
# Compositing and brightness

Weighting takes a channel towards the black level, from above and from below, and neither past it nor
away from it; full contribution leaves it where it is. Weights and sums keep the order of channel
values, so a screen pixel never gets darker where a plane gets brighter.
-/

namespace DualPlaneVideo

namespace Color

inductive Channel where
  | red
  | green
  | blue

def channel (color : Color) : Channel → UInt8
  | .red => color.red
  | .green => color.green
  | .blue => color.blue

/-- The color is as visible as the first one and nowhere darker. -/
structure IsBrighter (color brighter : Color) : Prop where
  isTransparent_eq : brighter.isTransparent = color.isTransparent
  channel_le : ∀ channel, color.channel channel ≤ brighter.channel channel

theorem IsBrighter.refl (color : Color) : IsBrighter color color where
  isTransparent_eq := rfl
  channel_le channel := UInt8.le_refl (color.channel channel)

end Color

/-- The value lies between the two others, either of which may be the smaller one. -/
def IsBetween (value first second : UInt8) : Prop :=
  (first ≤ value ∧ value ≤ second) ∨ (second ≤ value ∧ value ≤ first)

namespace Compositing

open Color (IsBrighter)

variable {channel factor : UInt8} {pixels : PerPlane Color} {layering : Layering}

/-! ## Weights -/

/-- What a factor leaves of a distance from the black level. -/
def weightedDistance (factor : UInt8) (distance : Int) : Int :=
  (min (factor.toNat : Int) fullFactor * distance).tdiv fullFactor

theorem weightedDistance_mono (factor : UInt8) {distance longer : Int} (h : distance ≤ longer) :
    weightedDistance factor distance ≤ weightedDistance factor longer := by
  have hweight : 0 ≤ min (factor.toNat : Int) fullFactor := by omega
  exact Int.tdiv_le_tdiv (by decide) (Int.mul_le_mul_of_nonneg_left h hweight)

theorem weightedDistance_zero (factor : UInt8) : weightedDistance factor 0 = 0 := by
  rw [weightedDistance, Int.mul_zero, Int.zero_tdiv]

theorem weightedDistance_neg (factor : UInt8) (distance : Int) :
    weightedDistance factor (-distance) = -weightedDistance factor distance := by
  rw [weightedDistance, Int.mul_neg, Int.neg_tdiv, ← weightedDistance]

theorem weightedDistance_le (factor : UInt8) {distance : Int} (h : 0 ≤ distance) :
    weightedDistance factor distance ≤ distance := by
  have hweight : min (factor.toNat : Int) fullFactor ≤ fullFactor := Int.min_le_right _ _
  calc
    weightedDistance factor distance ≤ ((fullFactor : Int) * distance).tdiv fullFactor :=
      Int.tdiv_le_tdiv (by decide) (Int.mul_le_mul_of_nonneg_right hweight h)
    _ = distance := Int.mul_tdiv_cancel_left distance (by decide)

theorem weightedDistance_of_full (h : 63 ≤ factor) (distance : Int) :
    weightedDistance factor distance = distance := by
  have hweight : min (factor.toNat : Int) fullFactor = fullFactor := by
    have hfactor := UInt8.le_iff_toNat_le.mp h
    change 63 ≤ factor.toNat at hfactor
    rw [fullFactor]
    omega
  rw [weightedDistance, hweight, Int.mul_tdiv_cancel_left distance (by decide)]

/-- Truncation is towards zero, so a distance keeps its side, and no weight is larger than one. -/
theorem weightedDistance_between (factor : UInt8) (distance : Int) :
    (0 ≤ weightedDistance factor distance ∧ weightedDistance factor distance ≤ distance) ∨
      (distance ≤ weightedDistance factor distance ∧ weightedDistance factor distance ≤ 0) := by
  have hzero := weightedDistance_zero factor
  rcases Int.le_total 0 distance with hpos | hneg
  · have hside := weightedDistance_mono factor hpos
    exact Or.inl ⟨by omega, weightedDistance_le factor hpos⟩
  · have hside := weightedDistance_mono factor hneg
    have hopposite := weightedDistance_le factor (Int.neg_nonneg_of_nonpos hneg)
    rw [weightedDistance_neg] at hopposite
    exact Or.inr ⟨by omega, by omega⟩

/-- A weighted channel is never clamped. -/
theorem toNat_weightedChannel (channel factor : UInt8) :
    ((weightedChannel channel factor).toNat : Int) =
      16 + weightedDistance factor (channel.toNat - 16) := by
  have hchannel := channel.toNat_lt
  have hbetween := weightedDistance_between factor (channel.toNat - 16)
  have hclamped : ((weightedChannel channel factor).toNat : Int) =
      max 0 (min 255 (weightedDistance factor (channel.toNat - 16) + 16)) :=
    Color.toNat_clampChannel _
  omega

theorem weightedChannel_mono (factor : UInt8) {brighter : UInt8} (h : channel ≤ brighter) :
    weightedChannel channel factor ≤ weightedChannel brighter factor := by
  have hchannel := toNat_weightedChannel channel factor
  have hbrighter := toNat_weightedChannel brighter factor
  have hdistance : (channel.toNat : Int) - 16 ≤ brighter.toNat - 16 := by
    have hle := UInt8.le_iff_toNat_le.mp h
    omega
  have hmono := weightedDistance_mono factor hdistance
  rw [UInt8.le_iff_toNat_le]
  omega

theorem isBetween_weightedChannel (channel factor : UInt8) :
    IsBetween (weightedChannel channel factor) 16 channel := by
  have hchannel := toNat_weightedChannel channel factor
  have hbetween := weightedDistance_between factor (channel.toNat - 16)
  have hblack : (16 : UInt8).toNat = 16 := rfl
  simp only [IsBetween, UInt8.le_iff_toNat_le, hblack]
  omega

theorem weightedChannel_of_full (h : 63 ≤ factor) (channel : UInt8) :
    weightedChannel channel factor = channel := by
  have hchannel := toNat_weightedChannel channel factor
  rw [weightedDistance_of_full h] at hchannel
  rw [← UInt8.toNat_inj]
  omega

/-! ## Sums -/

theorem toNat_addChannels (a b : UInt8) :
    ((addChannels a b).toNat : Int) = max 0 (min 255 ((a.toNat : Int) + b.toNat - 16)) :=
  Color.toNat_clampChannel _

theorem addChannels_mono {a b brighterA brighterB : UInt8} (ha : a ≤ brighterA)
    (hb : b ≤ brighterB) : addChannels a b ≤ addChannels brighterA brighterB := by
  have hsum := toNat_addChannels a b
  have hbrighter := toNat_addChannels brighterA brighterB
  rw [UInt8.le_iff_toNat_le] at ha hb ⊢
  omega

/-! ## Channels of a screen pixel -/

theorem channel_weighted (color : Color) (factor : UInt8) (channel : Color.Channel) :
    (weighted color factor).channel channel =
      weightedChannel (color.channel channel) factor := by
  cases channel <;> rfl

theorem channel_addColors (a b : Color) (channel : Color.Channel) :
    (addColors a b).channel channel = addChannels (a.channel channel) (b.channel channel) := by
  cases channel <;> rfl

theorem channel_withAlpha (color : Color) (alpha : UInt8) (channel : Color.Channel) :
    (color.withAlpha alpha).channel channel = color.channel channel := by
  cases channel <;> rfl

/-- The channel that a pixel brings into a mix: a transparent one brings the black level. -/
def mixedChannel (pixel : Color) (channel : Color.Channel) : UInt8 :=
  if pixel.isTransparent then 16 else pixel.channel channel

theorem channel_share (pixel : Color) (factor : UInt8) (channel : Color.Channel) :
    (share pixel factor).channel channel =
      weightedChannel (mixedChannel pixel channel) factor := by
  rw [share, channel_weighted, mixedChannel]
  split
  · cases channel <;> rfl
  · rfl

theorem mixedChannel_mono {pixel brighter : Color} (h : pixel.IsBrighter brighter)
    (channel : Color.Channel) : mixedChannel pixel channel ≤ mixedChannel brighter channel := by
  rw [mixedChannel, mixedChannel, h.isTransparent_eq]
  split
  · exact UInt8.le_refl 16
  · exact h.channel_le channel

/-- The screen gets nowhere darker if no plane does. -/
theorem composite_mono {others : PerPlane Color}
    (h : ∀ plane, (pixels.get plane).IsBrighter (others.get plane)) (backdrop : Color)
    (factors : PerPlane UInt8) (layering : Layering) (channel : Color.Channel) :
    (composite pixels backdrop factors layering).channel channel ≤
      (composite others backdrop factors layering).channel channel := by
  cases hmixes : layering.mixes with
  | true =>
    rw [composite_of_mixes hmixes, composite_of_mixes hmixes, channel_addColors,
      channel_addColors, channel_share, channel_share, channel_share, channel_share]
    exact addChannels_mono (weightedChannel_mono _ (mixedChannel_mono (h .a) channel))
      (weightedChannel_mono _ (mixedChannel_mono (h .b) channel))
  | false =>
    rcases exists_isFrontmost_or_forall pixels layering.front with ⟨plane, hplane⟩ | htransparent
    · -- The same plane stays in front, since none becomes visible or transparent.
      have hother : IsFrontmost others layering.front plane :=
        { visible := (h plane).isTransparent_eq.trans hplane.visible
          uncovered := fun hne ↦ (h _).isTransparent_eq.trans (hplane.uncovered hne) }
      rw [composite_of_isFrontmost hmixes hplane, composite_of_isFrontmost hmixes hother,
        channel_weighted, channel_weighted]
      exact weightedChannel_mono _ ((h plane).channel_le channel)
    · have hother (plane : Plane) : (others.get plane).isTransparent = true :=
        (h plane).isTransparent_eq.trans (htransparent plane)
      rw [composite_of_isTransparent hmixes htransparent,
        composite_of_isTransparent hmixes hother]
      exact UInt8.le_refl _

theorem isBrighter_set {plane : Plane} {brighter : Color}
    (h : (pixels.get plane).IsBrighter brighter) (target : Plane) :
    (pixels.get target).IsBrighter ((pixels.set plane brighter).get target) := by
  by_cases htarget : target = plane
  · subst htarget
    rwa [PerPlane.get_set_self]
  · rw [PerPlane.get_set_of_ne pixels htarget]
    exact IsBrighter.refl _

/-- Compositing keeps the order of brightness and never overshoots. Where a plane gets brighter and
stays as visible as it is, no channel of the screen pixel gets darker. An overlay shows every channel
of the frontmost visible plane between the black level and its own value, which full contribution
reaches, and the backdrop where no plane is visible. A mix at full contribution is the clamped sum
above the black level. The screen pixel is always opaque. -/
theorem composite_never_overshoots (pixels : PerPlane Color) (backdrop : Color)
    (factors : PerPlane UInt8) (layering : Layering) :
    let shown := composite pixels backdrop factors layering
    (∀ plane brighter, (pixels.get plane).IsBrighter brighter → ∀ channel, shown.channel channel ≤
        (composite (pixels.set plane brighter) backdrop factors layering).channel channel) ∧
      (layering.mixes = false →
        (∀ plane, IsFrontmost pixels layering.front plane → ∀ channel,
          IsBetween (shown.channel channel) 16 ((pixels.get plane).channel channel) ∧
            (63 ≤ factors.get plane →
              shown.channel channel = (pixels.get plane).channel channel)) ∧
        ((∀ plane, (pixels.get plane).isTransparent = true) →
          ∀ channel, shown.channel channel = backdrop.channel channel)) ∧
      (layering.mixes = true → (∀ plane, 63 ≤ factors.get plane) → ∀ channel,
        ((shown.channel channel).toNat : Int) =
          max 0 (min 255 (((mixedChannel pixels.a channel).toNat : Int) +
            (mixedChannel pixels.b channel).toNat - 16))) ∧
      shown.alpha = 255 := by
  intro shown
  refine ⟨?_, ?_, ?_, isSolid_composite pixels backdrop factors layering⟩
  · intro plane brighter hbrighter channel
    exact composite_mono (isBrighter_set hbrighter) backdrop factors layering channel
  · intro hmixes
    constructor
    · intro plane hplane channel
      have hshown : shown.channel channel =
          weightedChannel ((pixels.get plane).channel channel) (factors.get plane) := by
        rw [← channel_weighted, ← composite_of_isFrontmost hmixes hplane]
      rw [hshown]
      exact ⟨isBetween_weightedChannel _ _, fun hfull ↦ weightedChannel_of_full hfull _⟩
    · intro htransparent channel
      have hshown : shown = backdrop.withAlpha 255 :=
        composite_of_isTransparent hmixes htransparent backdrop factors
      rw [hshown, channel_withAlpha]
  · intro hmixes hfull channel
    have hshown : shown.channel channel =
        addChannels (mixedChannel pixels.a channel) (mixedChannel pixels.b channel) := by
      have ha : 63 ≤ factors.a := hfull .a
      have hb : 63 ≤ factors.b := hfull .b
      have hsum : shown = addColors (share pixels.a factors.a) (share pixels.b factors.b) :=
        composite_of_mixes hmixes pixels backdrop factors
      rw [hsum, channel_addColors, channel_share, channel_share, weightedChannel_of_full ha,
        weightedChannel_of_full hb]
    rw [hshown, toNat_addChannels]

/-- A color with one channel below the black level, behind a transparent plane. -/
def coveredColor : PerPlane Color := ⟨.transparent, .solid 200 8 90⟩

theorem composite_never_overshoots_covered_color :
    let brighter : Color := .solid 220 8 250
    let shown := composite coveredColor .black ⟨63, 31⟩ ⟨.a, false⟩
    let mixed := composite coveredColor .black ⟨63, 255⟩ ⟨.a, true⟩
    ((coveredColor.get .b).IsBrighter brighter ∧ shown.channel .blue ≤
        (composite (coveredColor.set .b brighter) .black ⟨63, 31⟩ ⟨.a, false⟩).channel .blue) ∧
      (IsFrontmost coveredColor .a .b ∧ shown = .solid 106 13 52 ∧
        IsBetween (shown.channel .green) 16 8) ∧
      (63 ≤ (PerPlane.mk 31 63 : PerPlane UInt8).get .b ∧
        (composite coveredColor .black ⟨31, 63⟩ ⟨.a, false⟩).channel .green = 8) ∧
      ((∀ plane, ((PerPlane.both Color.transparent).get plane).isTransparent = true) ∧
        (composite (.both .transparent) (.solid 1 2 3) ⟨0, 0⟩ ⟨.b, false⟩).channel .red = 1) ∧
      (∀ plane, 63 ≤ (PerPlane.mk 63 255 : PerPlane UInt8).get plane) ∧
      ((mixed.channel .green).toNat : Int) = max 0 (min 255 (16 + 8 - 16)) := by
  intro brighter shown mixed
  have hbrighter : (coveredColor.get .b).IsBrighter brighter :=
    { isTransparent_eq := by decide
      channel_le := fun channel ↦ by cases channel <;> decide }
  have hfrontmost : IsFrontmost coveredColor .a .b := ⟨by decide, fun _ ↦ by decide⟩
  have hfull : ∀ plane, 63 ≤ (PerPlane.mk 63 255 : PerPlane UInt8).get plane := by decide
  obtain ⟨hmono, hoverlay, -, -⟩ :=
    composite_never_overshoots coveredColor .black ⟨63, 31⟩ ⟨.a, false⟩
  obtain ⟨-, hown, -, -⟩ := composite_never_overshoots coveredColor .black ⟨31, 63⟩ ⟨.a, false⟩
  obtain ⟨-, hempty, -, -⟩ :=
    composite_never_overshoots (.both .transparent) (.solid 1 2 3) ⟨0, 0⟩ ⟨.b, false⟩
  obtain ⟨-, -, hmix, -⟩ := composite_never_overshoots coveredColor .black ⟨63, 255⟩ ⟨.a, true⟩
  refine ⟨⟨hbrighter, hmono .b brighter hbrighter .blue⟩, ⟨hfrontmost, by decide, ?_⟩,
    ⟨by decide, ?_⟩, ⟨by decide, ?_⟩, hfull, hmix rfl hfull .green⟩
  · exact ((hoverlay rfl).1 .b hfrontmost .green).1
  · exact ((hown rfl).1 .b hfrontmost .green).2 (by decide)
  · exact (hempty rfl).2 (by decide) .red

end Compositing

end DualPlaneVideo
