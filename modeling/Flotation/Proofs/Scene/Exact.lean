import Flotation.Proofs.Scene.Course
import Mathlib.Data.Rat.Floor
import Mathlib.Tactic.FieldSimp
import Mathlib.Tactic.Linarith
import Mathlib.Tactic.NormNum
import Mathlib.Tactic.Positivity
import Mathlib.Tactic.Ring

/-! The laws of motion over the rationals, where nothing is rounded: the submersion of a sphere, the share
of its volume with which it floats, and what a tick does in terms of the two. -/
namespace Flotation

theorem Scalar.isPositive_iff {x : Rat} : Scalar.IsPositive x ↔ 0 < x := by
  have hz : (0.0 : Rat) = 0 := by norm_num
  rw [Scalar.IsPositive, hz, not_le]
  exact and_iff_right rfl

namespace Sphere
variable (s : Sphere Rat)

theorem radius_pos : 0 < s.radius := Scalar.isPositive_iff.mp s.radius_positive

theorem mass_pos : 0 < s.mass := Scalar.isPositive_iff.mp s.mass_positive

theorem diameter_eq : s.diameter = 2 * s.radius := by
  rw [diameter]
  norm_num

theorem volume_pos : 0 < s.volume := by
  have hr := s.radius_pos
  rw [volume, volumeOf, pi]
  norm_num
  positivity

theorem submersion_above (h : s.radius ≤ s.height) : s.submersion = 0 := by
  have hb : (0.0 : Rat) ≤ s.bottom := by
    rw [bottom]
    norm_num
    exact h
  rw [submersion, if_pos hb]
  norm_num

theorem submersion_below (h : s.height ≤ -s.radius) : s.submersion = 1 := by
  have hr := s.radius_pos
  have hb : ¬ (0.0 : Rat) ≤ s.bottom := by
    rw [bottom]
    norm_num
    linarith
  have hd : s.bottom ≤ -s.diameter := by
    rw [diameter_eq, bottom]
    linarith
  rw [submersion, if_neg hb, if_pos hd]
  norm_num

/-- At either end of the ramp its formula agrees with the flat part next to it. -/
theorem submersion_between (hl : -s.radius ≤ s.height) (hu : s.height ≤ s.radius) :
    s.submersion = (s.radius - s.height) / (2 * s.radius) := by
  have hr := s.radius_pos
  rcases hu.eq_or_lt with he | hu
  · rw [s.submersion_above he.ge, he, sub_self, zero_div]
  rcases hl.eq_or_lt with he | hl
  · rw [s.submersion_below he.ge, ← he]
    field_simp
    ring
  have hb : ¬ (0.0 : Rat) ≤ s.bottom := by
    rw [bottom]
    norm_num
    exact hu
  have hd : ¬ s.bottom ≤ -s.diameter := by
    rw [diameter_eq, bottom]
    linarith
  rw [submersion, if_neg hb, if_neg hd, diameter_eq, bottom, neg_sub]

/-- Every height is above the ramp, below it or on it. -/
theorem submersion_cases :
    (s.radius ≤ s.height ∧ s.submersion = 0) ∨ (s.height ≤ -s.radius ∧ s.submersion = 1) ∨
      (-s.radius < s.height ∧ s.height < s.radius ∧
        s.submersion = (s.radius - s.height) / (2 * s.radius)) := by
  rcases le_or_gt s.radius s.height with hu | hu
  · exact .inl ⟨hu, s.submersion_above hu⟩
  · rcases le_or_gt s.height (-s.radius) with hl | hl
    · exact .inr (.inl ⟨hl, s.submersion_below hl⟩)
    · exact .inr (.inr ⟨hl, hu, s.submersion_between hl.le hu.le⟩)

theorem submersion_nonneg : 0 ≤ s.submersion := by
  have hr := s.radius_pos
  rcases s.submersion_cases with ⟨_, h⟩ | ⟨_, h⟩ | ⟨_, hu, h⟩
  · exact h.ge
  · rw [h]
    exact zero_le_one
  · rw [h]
    exact div_nonneg (sub_nonneg.mpr hu.le) (by linarith)

theorem submersion_eq_zero (h : ¬ (0.0 : Rat) < s.submersion) : s.submersion = 0 := by
  norm_num at h
  exact le_antisymm h s.submersion_nonneg

theorem submersion_le_one : s.submersion ≤ 1 := by
  have hr := s.radius_pos
  rcases s.submersion_cases with ⟨_, h⟩ | ⟨_, h⟩ | ⟨hl, _, h⟩
  · rw [h]
    exact zero_le_one
  · exact h.le
  · rw [h, div_le_one (by linarith)]
    linarith

end Sphere

theorem Water.density_pos (w : Water Rat) : 0 < w.density :=
  Scalar.isPositive_iff.mp w.density_positive

def Water.fresh : Water Rat := { density := 1000, density_positive := by decide +kernel }

namespace Scene
variable (s : Scene Rat)

theorem floatingRatio_pos : 0 < s.floatingRatio :=
  div_pos s.sphere.mass_pos (mul_pos s.sphere.volume_pos s.water.density_pos)

/-- The buoyant force in terms of the weight. -/
theorem buoyancy_eq (ratio : Rat) :
    s.buoyancy ratio = ratio / s.floatingRatio * (s.sphere.mass * s.gravity) := by
  have hm := s.sphere.mass_pos
  have hv := s.sphere.volume_pos
  have hw := s.water.density_pos
  rw [buoyancy, floatingRatio]
  field_simp

/-- The two cases of a tick are one where nothing is rounded, for a sphere that is not in the water is
submerged by nothing. -/
theorem tick_acceleration (elapsed : Rat) :
    (s.tick elapsed).acceleration = s.gravity * (s.sphere.submersion / s.floatingRatio - 1) := by
  have hm := s.sphere.mass_pos
  have hf := s.floatingRatio_pos
  by_cases h : (0.0 : Rat) < s.sphere.submersion
  · rw [s.tick_wet elapsed h, fall, buoyancy_eq]
    field_simp
  · rw [s.tick_dry elapsed h, fall, s.sphere.submersion_eq_zero h]
    norm_num

theorem tick_force (elapsed : Rat) : (s.tick elapsed).force = s.buoyancy s.sphere.submersion := by
  by_cases h : (0.0 : Rat) < s.sphere.submersion
  · rw [s.tick_wet elapsed h, fall]
  · rw [s.tick_dry elapsed h, fall, s.sphere.submersion_eq_zero h, buoyancy_eq]
    norm_num

theorem tick_velocity (elapsed : Rat) :
    (s.tick elapsed).velocity = s.sphere.velocity + (s.tick elapsed).acceleration * elapsed := by
  by_cases h : (0.0 : Rat) < s.sphere.submersion
  · rw [s.tick_wet elapsed h, fall]
    ring
  · rw [s.tick_dry elapsed h, fall]
    norm_num
    ring

end Scene
end Flotation
