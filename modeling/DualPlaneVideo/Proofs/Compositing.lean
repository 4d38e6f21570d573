import DualPlaneVideo.Compositing
import DualPlaneVideo.Proofs.Grid

/-!
# Compositing with a transparent plane

The black level is what every weighting leaves where it is, and what a sum of planes does not
notice. So where one plane is transparent the other alone makes the screen pixel, whatever the factor
of the transparent plane and the order of the planes. An overlay shows the frontmost plane that is
visible. Neither way of layering knows the planes by name: where they change places, factors and
order included, the screen pixel stays.
-/

namespace DualPlaneVideo

namespace PerPlane

variable {α : Type}

/-- The values change places. -/
def swap (pair : PerPlane α) : PerPlane α := ⟨pair.b, pair.a⟩

@[simp]
theorem get_swap (pair : PerPlane α) (plane : Plane) : pair.swap.get plane = pair.get plane.other := by
  cases plane <;> rfl

end PerPlane

/-- The other plane is in front. -/
def Layering.flipped (layering : Layering) : Layering :=
  { layering with front := layering.front.other }

namespace Compositing

variable {pixels : PerPlane Color} {plane : Plane} {layering : Layering}

/-- Weighting moves a channel towards the black level, which itself stays. -/
theorem weightedChannel_blackLevel (factor : UInt8) : weightedChannel 16 factor = 16 := by
  have hmoved (weight : Int) : (weight * ((16 : UInt8).toNat - blackLevel)).tdiv fullFactor +
      blackLevel = blackLevel := by
    have hdistance : ((16 : UInt8).toNat : Int) - blackLevel = 0 := rfl
    rw [hdistance, Int.mul_zero, Int.zero_tdiv, Int.zero_add]
  rw [weightedChannel, hmoved]
  rfl

theorem weighted_neutral (factor : UInt8) : weighted neutral factor = neutral := by
  unfold weighted neutral Color.solid
  rw [weightedChannel_blackLevel]

/-- A transparent plane adds the black level to a mix, whatever its factor. -/
theorem share_of_isTransparent {pixel : Color} (h : pixel.isTransparent = true) (factor : UInt8) :
    share pixel factor = neutral := by
  rw [share, if_pos h, weighted_neutral]

theorem addChannels_comm (a b : UInt8) : addChannels a b = addChannels b a := by
  rw [addChannels, addChannels, Int.add_comm a.toNat b.toNat]

theorem addColors_comm (a b : Color) : addColors a b = addColors b a := by
  unfold addColors
  rw [addChannels_comm a.red, addChannels_comm a.green, addChannels_comm a.blue]

/-- The screen pixel that one plane makes alone. -/
def alone (pixel backdrop : Color) (factor : UInt8) (mixes : Bool) : Color :=
  if mixes then addColors (share pixel factor) neutral
  else if pixel.isTransparent then backdrop.withAlpha 255
  else weighted pixel factor

/-- Where a plane is transparent, the other one makes the screen pixel alone. -/
theorem composite_eq_alone (h : (pixels.get plane).isTransparent = true) (backdrop : Color)
    (factors : PerPlane UInt8) (layering : Layering) :
    composite pixels backdrop factors layering =
      alone (pixels.get plane.other) backdrop (factors.get plane.other) layering.mixes := by
  unfold composite alone
  cases hmixes : layering.mixes with
  | true =>
    simp only [if_true]
    cases plane with
    | a =>
      have hshare : share pixels.a factors.a = neutral := share_of_isTransparent h _
      rw [hshare, addColors_comm]
      rfl
    | b =>
      have hshare : share pixels.b factors.b = neutral := share_of_isTransparent h _
      rw [hshare]
      rfl
  | false =>
    simp only [Bool.false_eq_true, if_false]
    -- The transparent plane is the front one, which shows the back, or the back one, which shows
    -- the backdrop; the other plane decides in either place.
    by_cases hfront : layering.front = plane
    · rw [hfront, h]
      cases (pixels.get plane.other).isTransparent <;> rfl
    · rw [Plane.eq_other_of_ne hfront, Plane.other_other, h]
      cases (pixels.get plane.other).isTransparent <;> rfl

theorem isSolid_composite (pixels : PerPlane Color) (backdrop : Color)
    (factors : PerPlane UInt8) (layering : Layering) :
    (composite pixels backdrop factors layering).IsSolid := by
  unfold composite
  dsimp only
  split
  · rfl
  · split
    · rfl
    · split <;> rfl

/-! ## Layers -/

/-- The plane is visible, and the plane in front does not hide it. -/
structure IsFrontmost (pixels : PerPlane Color) (front plane : Plane) : Prop where
  visible : (pixels.get plane).isTransparent = false
  uncovered : plane ≠ front → (pixels.get front).isTransparent = true

theorem exists_isFrontmost_or_forall (pixels : PerPlane Color) (front : Plane) :
    (∃ plane, IsFrontmost pixels front plane) ∨
      ∀ plane, (pixels.get plane).isTransparent = true := by
  cases hfront : (pixels.get front).isTransparent with
  | false => exact Or.inl ⟨front, hfront, fun hne ↦ absurd rfl hne⟩
  | true =>
    cases hback : (pixels.get front.other).isTransparent with
    | false => exact Or.inl ⟨front.other, hback, fun _ ↦ hfront⟩
    | true =>
      right
      intro plane
      by_cases hplane : plane = front
      · rwa [hplane]
      · rwa [Plane.eq_other_of_ne hplane]

theorem IsFrontmost.swap {front : Plane} (h : IsFrontmost pixels front plane) :
    IsFrontmost pixels.swap front.other plane.other where
  visible := by
    rw [PerPlane.get_swap, Plane.other_other]
    exact h.visible
  uncovered hne := by
    rw [PerPlane.get_swap, Plane.other_other]
    exact h.uncovered fun hsame ↦ hne (congrArg Plane.other hsame)

theorem composite_of_mixes (h : layering.mixes = true) (pixels : PerPlane Color) (backdrop : Color)
    (factors : PerPlane UInt8) :
    composite pixels backdrop factors layering =
      addColors (share pixels.a factors.a) (share pixels.b factors.b) := by
  rw [composite, if_pos h]

theorem composite_of_isFrontmost (h : layering.mixes = false)
    (hplane : IsFrontmost pixels layering.front plane) (backdrop : Color)
    (factors : PerPlane UInt8) :
    composite pixels backdrop factors layering =
      weighted (pixels.get plane) (factors.get plane) := by
  have hvisible := hplane.visible
  by_cases hfront : plane = layering.front
  · subst hfront
    simp [composite, h, hvisible]
  · have hhidden := hplane.uncovered hfront
    have hback := Plane.eq_other_of_ne hfront
    subst hback
    simp [composite, h, hvisible, hhidden]

theorem composite_of_isTransparent (h : layering.mixes = false)
    (htransparent : ∀ plane, (pixels.get plane).isTransparent = true) (backdrop : Color)
    (factors : PerPlane UInt8) :
    composite pixels backdrop factors layering = backdrop.withAlpha 255 := by
  simp [composite, h, htransparent]

/-! ## Symmetry -/

/-- Where the planes change places with their factors and their order, the screen pixel stays. -/
theorem composite_swap (pixels : PerPlane Color) (backdrop : Color) (factors : PerPlane UInt8)
    (layering : Layering) :
    composite pixels.swap backdrop factors.swap layering.flipped =
      composite pixels backdrop factors layering := by
  cases hmixes : layering.mixes with
  | true =>
    have hflipped : layering.flipped.mixes = true := hmixes
    rw [composite_of_mixes hmixes, composite_of_mixes hflipped]
    exact addColors_comm _ _
  | false =>
    have hflipped : layering.flipped.mixes = false := hmixes
    rcases exists_isFrontmost_or_forall pixels layering.front with ⟨plane, hplane⟩ | htransparent
    · calc
        composite pixels.swap backdrop factors.swap layering.flipped =
            weighted (pixels.swap.get plane.other) (factors.swap.get plane.other) :=
          composite_of_isFrontmost hflipped hplane.swap backdrop factors.swap
        _ = weighted (pixels.get plane) (factors.get plane) := by
          rw [PerPlane.get_swap, PerPlane.get_swap, Plane.other_other]
        _ = composite pixels backdrop factors layering :=
          (composite_of_isFrontmost hmixes hplane backdrop factors).symm
    · have hswapped (plane : Plane) : (pixels.swap.get plane).isTransparent = true := by
        rw [PerPlane.get_swap]
        exact htransparent plane.other
      rw [composite_of_isTransparent hmixes htransparent,
        composite_of_isTransparent hflipped hswapped]

/-- Compositing does not prefer a plane. Where the planes change places with their factors and their
order, the screen pixel stays. A mix has no order and no backdrop, and the order of an overlay shows
only where both planes are visible. -/
theorem composite_keeps_plane_symmetry (pixels : PerPlane Color) (backdrop : Color)
    (factors : PerPlane UInt8) (layering : Layering) :
    composite pixels.swap backdrop factors.swap layering.flipped =
        composite pixels backdrop factors layering ∧
      (layering.mixes = true → ∀ front otherBackdrop,
        composite pixels otherBackdrop factors { layering with front } =
          composite pixels backdrop factors layering) ∧
      (layering.mixes = false → (¬ ∀ plane, (pixels.get plane).isTransparent = false) →
        ∀ front, composite pixels backdrop factors { layering with front } =
          composite pixels backdrop factors layering) := by
  refine ⟨composite_swap pixels backdrop factors layering, ?_, ?_⟩
  · intro hmixes front otherBackdrop
    have hother : ({ layering with front } : Layering).mixes = true := hmixes
    rw [composite_of_mixes hmixes, composite_of_mixes hother]
  · intro _ hvisible front
    obtain ⟨plane, hplane⟩ := not_forall.mp hvisible
    have htransparent : (pixels.get plane).isTransparent = true := by
      rwa [Bool.not_eq_false] at hplane
    rw [composite_eq_alone htransparent, composite_eq_alone htransparent]

/-- Planes of different colors and factors, the second pair with a transparent plane in front. -/
theorem composite_keeps_plane_symmetry_of_uneven_planes :
    let pixels : PerPlane Color := ⟨.solid 200 8 90, .solid 40 250 90⟩
    let covered : PerPlane Color := ⟨.transparent, .solid 40 250 90⟩
    let factors : PerPlane UInt8 := ⟨31, 50⟩
    composite pixels.swap .black factors.swap ⟨.b, false⟩ = .solid 106 13 52 ∧
      composite pixels .black factors ⟨.b, true⟩ =
        composite pixels (.solid 1 2 3) factors ⟨.a, true⟩ ∧
      (¬ ∀ plane, (covered.get plane).isTransparent = false) ∧
      composite covered .black factors ⟨.b, false⟩ = composite covered .black factors ⟨.a, false⟩ := by
  intro pixels covered factors
  have hcovered : ¬ ∀ plane, (covered.get plane).isTransparent = false := by decide
  obtain ⟨hswap, -, -⟩ := composite_keeps_plane_symmetry pixels .black factors ⟨.a, false⟩
  obtain ⟨-, hmix, -⟩ := composite_keeps_plane_symmetry pixels (.solid 1 2 3) factors ⟨.a, true⟩
  obtain ⟨-, -, horder⟩ := composite_keeps_plane_symmetry covered .black factors ⟨.a, false⟩
  exact ⟨hswap.trans (by decide), hmix rfl .b .black, hcovered, horder rfl hcovered .b⟩

end Compositing

end DualPlaneVideo
