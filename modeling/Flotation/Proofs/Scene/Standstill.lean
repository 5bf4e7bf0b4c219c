import Flotation.Proofs.Doubles
import Flotation.Proofs.Scene.Course
import Flotation.Proofs.Setup.Building

/-! Ticks of no length, over doubles. Both forces are taken no times in such a tick, which makes nothing of
gravity, and of buoyancy too unless it has overflowed: then there is no number left to add. -/
namespace Flotation.Scene
open Double

/-- Acceleration by the water on the sphere where it is. -/
def lift (s : Scene Float) : Float := s.buoyancy s.sphere.submersion / s.sphere.mass

/-- Either the sphere is above the water, or the water accelerates it by a number. -/
def Liftable (s : Scene Float) : Prop := 0.0 < s.sphere.submersion → s.lift.isFinite = true

instance (s : Scene Float) : Decidable s.Liftable := inferInstanceAs (Decidable (_ → _))

variable {s : Scene Float}

/-- The velocity after a tick of no length, and whether the water has had a part in it. -/
private theorem velocity_cases (s : Scene Float) :
    ((s.tick 0.0).velocity = s.sphere.velocity + s.lift * 0.0 - s.gravity * 0.0 ∧ 0.0 < s.sphere.submersion) ∨
      ((s.tick 0.0).velocity = s.sphere.velocity - s.gravity * 0.0 ∧ ¬ 0.0 < s.sphere.submersion) := by
  by_cases h : (0.0 : Float) < s.sphere.submersion
  · refine .inl ⟨?_, h⟩
    rw [s.tick_wet _ h]
    rfl
  · refine .inr ⟨?_, h⟩
    rw [s.tick_dry _ h]
    rfl

theorem tick_zero_velocity (hf : s.Finite) (hl : s.Liftable) : Same (s.tick 0.0).velocity s.sphere.velocity := by
  have hg : IsZero (s.gravity * 0.0) := isZero_mul_zero hf.gravity
  rcases velocity_cases s with ⟨hv, hw⟩ | ⟨hv, -⟩
  · have hb : Same (s.sphere.velocity + s.lift * 0.0) s.sphere.velocity :=
      same_add_zero hf.velocity (isZero_mul_zero (hl hw))
    rw [hv]
    exact (same_sub_zero (hb.isFinite_eq.trans hf.velocity) hg).trans hb
  · rw [hv]
    exact same_sub_zero hf.velocity hg

theorem tick_zero_height (hf : s.Finite) (hl : s.Liftable) : Same (s.tick 0.0).height s.sphere.height := by
  have hv : (s.tick 0.0).velocity.isFinite = true := (tick_zero_velocity hf hl).isFinite_eq.trans hf.velocity
  rw [tick_height]
  exact same_add_zero hf.height (isZero_mul_zero hv)

theorem tick_zero_isNaN (hl : ¬ s.Liftable) :
    (s.tick 0.0).velocity.isNaN = true ∧ (s.tick 0.0).height.isNaN = true := by
  obtain ⟨hw, hn⟩ := Classical.not_imp.mp hl
  -- The NaN gets from the lift into the velocity, and the velocity takes it into the height.
  have hv : (s.tick 0.0).velocity.isNaN = true := by
    rcases velocity_cases s with ⟨hv, -⟩ | ⟨-, hd⟩
    · rw [hv]
      exact isNaN_sub_left (isNaN_add_right (isNaN_mul_zero (Bool.not_eq_true _ |>.mp hn)) _) _
    · exact absurd hw hd
  refine ⟨hv, ?_⟩
  rw [tick_height]
  exact isNaN_add_right (isNaN_mul_left hv _) _

/-- In a tick of no length, a scene as set up stays as it is if the water accelerates the sphere by a number,
and only then. Otherwise neither a height nor a velocity is left. -/
theorem standstill_iff {c : SceneSetup Float} {scene : Scene Float} (h : c.build id = .ok scene) :
    (scene.Liftable ↔
      ((scene.advance 0.0).sphere.height == scene.sphere.height) = true ∧
        ((scene.advance 0.0).sphere.velocity == scene.sphere.velocity) = true) ∧
      (¬ scene.Liftable →
        (scene.advance 0.0).sphere.height.isNaN = true ∧ (scene.advance 0.0).sphere.velocity.isNaN = true) := by
  have hf : scene.Finite := SceneSetup.build_finite h
  rw [height_advance, velocity_advance]
  refine ⟨⟨fun hl => ?_, fun hk => ?_⟩, fun hl => (tick_zero_isNaN hl).symm⟩
  · exact ⟨(tick_zero_height hf hl).beq hf.height, (tick_zero_velocity hf hl).beq hf.velocity⟩
  · refine Classical.byContradiction fun hl => ?_
    rw [beq_of_isNaN (tick_zero_isNaN hl).2] at hk
    exact Bool.false_ne_true hk.1

/-- A sphere that rises through water of some density, three quarters of it below the surface. -/
def rising (density gravity : Float) : SceneSetup Float where
  sphere := { (.standard : SphereSetup Float) with initialHeight := -0.5, initialVelocity := 0.3 }
  water := ⟨density⟩
  gravity

theorem rising_stands_still :
    ∃ scene, (rising 1000.0 9.81).build id = .ok scene ∧
      ((scene.advance 0.0).sphere.height == scene.sphere.height) = true ∧
        ((scene.advance 0.0).sphere.velocity == scene.sphere.velocity) = true := by
  obtain ⟨scene, hb, hl⟩ := SceneSetup.build_of_any (c := rising 1000.0 9.81)
    (p := fun scene => decide scene.Liftable) (by decide +kernel)
  exact ⟨scene, hb, (standstill_iff hb).1.mp (of_decide_eq_true hl)⟩

/-- Under a strong gravity in heavy water, the force is beyond all doubles, and with it height and velocity are
lost. -/
theorem heavy_water_moves_at_once :
    ∃ scene, (rising 1e308 1e10).build id = .ok scene ∧
      ((scene.advance 0.0).sphere.height == scene.sphere.height) = false ∧
        ((scene.advance 0.0).sphere.velocity == scene.sphere.velocity) = false := by
  obtain ⟨scene, hb, hm⟩ := SceneSetup.build_of_any (c := rising 1e308 1e10)
    (p := fun scene => !((scene.advance 0.0).sphere.height == scene.sphere.height) &&
      !((scene.advance 0.0).sphere.velocity == scene.sphere.velocity)) (by decide +kernel)
  obtain ⟨hh, hv⟩ := Bool.and_eq_true_iff.mp hm
  exact ⟨scene, hb, Bool.not_eq_true' _ |>.mp hh, Bool.not_eq_true' _ |>.mp hv⟩

end Flotation.Scene
