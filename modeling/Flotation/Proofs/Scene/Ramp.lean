import Flotation.Proofs.Scene.Exact
import Mathlib.Algebra.Order.Group.MinMax

/-! The submersion of a sphere as a function of its height, over the rationals: a linear ramp that is cut off at
both ends. It never rises with the height and never falls faster than the ramp, and with it go the buoyant force
and the acceleration of a tick. -/
namespace Flotation

namespace Sphere
variable (s : Sphere Rat)

/-- The depth of the lowest point as a share of the diameter, above the water and below it too. -/
def ramp : Rat := (s.radius - s.height) / (2 * s.radius)

theorem ramp_nonpos_iff : s.ramp ≤ 0 ↔ s.radius ≤ s.height := by
  have hd : 0 < 2 * s.radius := mul_pos two_pos s.radius_pos
  rw [ramp, div_le_iff₀ hd, zero_mul, sub_nonpos]

theorem one_le_ramp_iff : 1 ≤ s.ramp ↔ s.height ≤ -s.radius := by
  have hd : 0 < 2 * s.radius := mul_pos two_pos s.radius_pos
  rw [ramp, le_div_iff₀ hd, one_mul]
  constructor <;> intro h <;> linarith

theorem submersion_eq_clamp : s.submersion = max 0 (min 1 s.ramp) := by
  rcases s.submersion_cases with ⟨hu, hs⟩ | ⟨hl, hs⟩ | ⟨hl, hu, hs⟩
  · have hr := s.ramp_nonpos_iff.mpr hu
    rw [hs, min_eq_right (hr.trans zero_le_one), max_eq_left hr]
  · rw [hs, min_eq_left (s.one_le_ramp_iff.mpr hl), max_eq_right zero_le_one]
  · have hr : s.submersion = s.ramp := hs
    rw [← hr, min_eq_right s.submersion_le_one, max_eq_right s.submersion_nonneg]

theorem submersion_eq_zero_iff : s.submersion = 0 ↔ s.radius ≤ s.height := by
  rw [submersion_eq_clamp, max_eq_left_iff, min_le_iff, ramp_nonpos_iff]
  exact or_iff_right (not_le.mpr one_pos)

theorem submersion_eq_one_iff : s.submersion = 1 ↔ s.height ≤ -s.radius := by
  rw [← one_le_ramp_iff, submersion_eq_clamp]
  constructor
  · intro h
    by_contra hr
    have hlt : max 0 (min 1 s.ramp) < 1 := max_lt one_pos ((min_le_right _ _).trans_lt (not_le.mp hr))
    exact hlt.ne h
  · intro h
    rw [min_eq_left h, max_eq_right zero_le_one]

/-- The same sphere at two heights. -/
theorem ramp_sub_ramp (low high v w : Rat) :
    (s.moved low v).ramp - (s.moved high w).ramp = (high - low) / (2 * s.radius) := by
  change (s.radius - low) / (2 * s.radius) - (s.radius - high) / (2 * s.radius) = _
  ring

end Sphere

/-- Cutting off at both ends brings two numbers no farther apart and does not exchange them. -/
private theorem clamp_sub_clamp {x y : Rat} (h : x ≤ y) :
    0 ≤ max 0 (min 1 y) - max 0 (min 1 x) ∧ max 0 (min 1 y) - max 0 (min 1 x) ≤ y - x := by
  have hd : 0 ≤ y - x := sub_nonneg.mpr h
  have hm : min 1 y ≤ min 1 x + (y - x) := by
    rw [← min_add_add_right]
    exact min_le_min (by linarith) (by linarith)
  refine ⟨sub_nonneg.mpr (max_le_max_left 0 (min_le_min_left 1 h)), ?_⟩
  rw [sub_le_iff_le_add', max_le_iff]
  constructor
  · have := le_max_left 0 (min 1 x)
    linarith
  · have := le_max_right 0 (min 1 x)
    linarith

namespace Scene
variable (s : Scene Rat)

/-- The scene with its sphere at a height, moving at some velocity. -/
def placed (height velocity : Rat) : Scene Rat := { s with sphere := s.sphere.moved height velocity }

variable {s}

theorem submersion_sub_submersion {low high : Rat} (h : low ≤ high) (v w : Rat) :
    0 ≤ (s.placed low v).sphere.submersion - (s.placed high w).sphere.submersion ∧
      (s.placed low v).sphere.submersion - (s.placed high w).sphere.submersion ≤
        (high - low) / (2 * s.sphere.radius) := by
  have hr := s.sphere.ramp_sub_ramp low high v w
  have hd : 0 ≤ (high - low) / (2 * s.sphere.radius) :=
    div_nonneg (sub_nonneg.mpr h) (mul_pos two_pos s.sphere.radius_pos).le
  rw [Sphere.submersion_eq_clamp, Sphere.submersion_eq_clamp, ← hr]
  exact clamp_sub_clamp (sub_nonneg.mp (hr ▸ hd))

/-- Gravity has to pull down for this: a sphere that is higher up is carried less. -/
theorem tick_antitone (hg : 0 ≤ s.gravity) {low high : Rat} (h : low ≤ high) (v w elapsed other : Rat) :
    ((s.placed high w).tick other).force ≤ ((s.placed low v).tick elapsed).force ∧
      ((s.placed high w).tick other).acceleration ≤ ((s.placed low v).tick elapsed).acceleration := by
  have hs := sub_nonneg.mp (submersion_sub_submersion (s := s) h v w).1
  have hf := div_le_div_of_nonneg_right hs s.floatingRatio_pos.le
  constructor
  · rw [tick_force, tick_force, buoyancy_eq, buoyancy_eq]
    exact mul_le_mul_of_nonneg_right hf (mul_nonneg s.sphere.mass_pos.le hg)
  · rw [tick_acceleration, tick_acceleration]
    exact mul_le_mul_of_nonneg_left (sub_le_sub_right hf 1) hg

/-- The submersion of a sphere is the ramp cut off at zero and one: none just from the radius upwards, all of it
just from the same distance below the surface downwards. From one height to a greater one it does not rise, and
does not fall faster than the ramp does; and if gravity does not push upwards, force and acceleration at the start
of a tick do not rise either, whatever the velocities and the lengths of the ticks. -/
theorem submersion_follows_ramp (s : Scene Rat) :
    (∀ height v, (s.placed height v).sphere.submersion =
        max 0 (min 1 ((s.sphere.radius - height) / (2 * s.sphere.radius)))) ∧
      (∀ height v, (s.placed height v).sphere.submersion = 0 ↔ s.sphere.radius ≤ height) ∧
      (∀ height v, (s.placed height v).sphere.submersion = 1 ↔ height ≤ -s.sphere.radius) ∧
      ∀ low high v w : Rat, low ≤ high →
        (0 ≤ (s.placed low v).sphere.submersion - (s.placed high w).sphere.submersion ∧
          (s.placed low v).sphere.submersion - (s.placed high w).sphere.submersion ≤
            (high - low) / (2 * s.sphere.radius)) ∧
        (0 ≤ s.gravity → ∀ elapsed other : Rat,
          ((s.placed high w).tick other).force ≤ ((s.placed low v).tick elapsed).force ∧
            ((s.placed high w).tick other).acceleration ≤ ((s.placed low v).tick elapsed).acceleration) := by
  refine ⟨fun height v => ?_, fun height v => ?_, fun height v => ?_, fun low high v w h => ⟨?_, ?_⟩⟩
  · exact (s.placed height v).sphere.submersion_eq_clamp
  · exact (s.placed height v).sphere.submersion_eq_zero_iff
  · exact (s.placed height v).sphere.submersion_eq_one_iff
  · exact submersion_sub_submersion h v w
  · intro hg elapsed other
    exact tick_antitone hg h v w elapsed other

/-- A light sphere in fresh water. -/
def buoy : Scene Rat where
  sphere :=
    { radius := 8, mass := 100, height := 5, velocity := 0
      radius_positive := by decide +kernel, mass_positive := by decide +kernel }
  water := .fresh
  gravity := 9.81

/-- From below the ramp to a place on it. -/
theorem buoy_follows_ramp :
    (-9 : Rat) ≤ 4 ∧ 0 ≤ buoy.gravity ∧
      (buoy.placed (-9) 4).sphere.submersion = 1 ∧ (buoy.placed 4 (-6)).sphere.submersion = 1 / 4 ∧
      (buoy.placed (-9) 4).sphere.submersion - (buoy.placed 4 (-6)).sphere.submersion ≤
        (4 - -9) / (2 * buoy.sphere.radius) ∧
      ((buoy.placed 4 (-6)).tick 0.5).force ≤ ((buoy.placed (-9) 4).tick 0.1).force ∧
      ((buoy.placed 4 (-6)).tick 0.5).acceleration ≤ ((buoy.placed (-9) 4).tick 0.1).acceleration := by
  have hl : (-9 : Rat) ≤ 4 := by decide +kernel
  have hg : 0 ≤ buoy.gravity := by decide +kernel
  obtain ⟨hclamp, -, hone, hpair⟩ := submersion_follows_ramp buoy
  obtain ⟨⟨-, hslope⟩, htick⟩ := hpair (-9) 4 4 (-6) hl
  refine ⟨hl, hg, (hone (-9) 4).mpr (by decide +kernel), ?_, hslope, htick hg 0.1 0.5⟩
  rw [hclamp]
  decide +kernel

end Scene
end Flotation
