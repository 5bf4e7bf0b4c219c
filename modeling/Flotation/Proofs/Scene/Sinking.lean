import Flotation.Proofs.Scene.Floating
import Mathlib.Algebra.Order.Archimedean.Basic

/-! Sinking, over the rationals: a sphere that floats nowhere is pulled down at no less than some rate, wherever
it is and however fast it goes up, and so every depth is passed for good. -/
namespace Flotation.Scene
variable (s : Scene Rat)

/-- What is left of gravity when the whole sphere is under water, where the water carries most. -/
def sinkingRate : Rat := s.gravity * (1 - 1 / s.floatingRatio)

variable {s} {elapsed : Rat}

theorem sinkingRate_pos (hg : 0 < s.gravity) (hf : 1 < s.floatingRatio) : 0 < s.sinkingRate :=
  mul_pos hg (sub_pos.mpr ((div_lt_one s.floatingRatio_pos).mpr hf))

/-- The water carries no more of a sphere than if all of it is under water. -/
theorem tick_acceleration_le (hg : 0 < s.gravity) (elapsed : Rat) :
    (s.tick elapsed).acceleration ≤ -s.sinkingRate := by
  have hs : s.sphere.submersion / s.floatingRatio ≤ 1 / s.floatingRatio :=
    div_le_div_of_nonneg_right s.sphere.submersion_le_one s.floatingRatio_pos.le
  have hm := mul_le_mul_of_nonneg_left hs hg.le
  rw [tick_acceleration, sinkingRate, mul_sub, mul_sub]
  linarith

theorem course_acceleration_le (hg : 0 < s.gravity) (lengths : List Rat) :
    ∀ tick ∈ s.course lengths, tick.acceleration ≤ -s.sinkingRate := by
  induction lengths generalizing s with
  | nil => exact List.forall_mem_nil _
  | cons elapsed rest ih =>
    have hrest : ∀ tick ∈ (s.advance elapsed).course rest, tick.acceleration ≤ -s.sinkingRate := ih hg
    exact List.forall_mem_cons.mpr ⟨tick_acceleration_le hg elapsed, hrest⟩

theorem advance_velocity_le (hg : 0 < s.gravity) (he : 0 ≤ elapsed) :
    (s.advance elapsed).sphere.velocity ≤ s.sphere.velocity - s.sinkingRate * elapsed := by
  have ha := mul_le_mul_of_nonneg_right (tick_acceleration_le hg elapsed) he
  rw [velocity_advance, tick_velocity]
  linarith

/-- Ticks do not change the rate. -/
theorem sinkingRate_advances (lengths : List Rat) : (s.advances lengths).sinkingRate = s.sinkingRate := by
  obtain ⟨height, velocity, h⟩ := s.advances_moves lengths
  rw [h]
  rfl

theorem gravity_advances (lengths : List Rat) : (s.advances lengths).gravity = s.gravity := by
  obtain ⟨height, velocity, h⟩ := s.advances_moves lengths
  rw [h]

theorem velocity_le (hg : 0 < s.gravity) (he : 0 ≤ elapsed) (n : Nat) :
    (s.advances (List.replicate n elapsed)).sphere.velocity ≤
      s.sphere.velocity - n * s.sinkingRate * elapsed := by
  induction n with
  | zero => simp
  | succ n ih =>
    have hv : (s.advances (List.replicate (n + 1) elapsed)).sphere.velocity ≤
        (s.advances (List.replicate n elapsed)).sphere.velocity - s.sinkingRate * elapsed := by
      rw [List.replicate_succ', advances_concat, ← s.sinkingRate_advances (List.replicate n elapsed)]
      exact advance_velocity_le ((gravity_advances _).symm ▸ hg) he
    rw [Nat.cast_succ]
    linarith

/-- It is the new velocity that moves the sphere, so the bounds on the velocities add up to a triangle. -/
theorem height_le (hg : 0 < s.gravity) (he : 0 ≤ elapsed) (n : Nat) :
    (s.advances (List.replicate n elapsed)).sphere.height ≤
      s.sphere.height + n * s.sphere.velocity * elapsed -
        s.sinkingRate * elapsed ^ 2 * n * (n + 1) / 2 := by
  induction n with
  | zero => simp
  | succ n ih =>
    have hv := mul_le_mul_of_nonneg_right (velocity_le hg he (n + 1)) he
    rw [List.replicate_succ', advances_concat] at hv ⊢
    rw [height_advance, tick_height, ← velocity_advance]
    rw [Nat.cast_succ] at hv ⊢
    linarith

/-- A parabola that opens downwards is in the end below every value. -/
private theorem parabola_passes {rate : Rat} (hr : 0 < rate) (start slope depth : Rat) :
    ∃ enough : Nat, ∀ n : Nat, enough ≤ n → start + n * slope - rate * n * (n + 1) < depth := by
  obtain ⟨steep, hsteep⟩ := exists_nat_gt ((slope + 1) / rate)
  obtain ⟨deep, hdeep⟩ := exists_nat_gt (start - depth)
  refine ⟨max steep deep, fun n hn => ?_⟩
  have hs : (steep : Rat) ≤ n := Nat.cast_le.mpr ((le_max_left _ _).trans hn)
  have hd : (deep : Rat) ≤ n := Nat.cast_le.mpr ((le_max_right _ _).trans hn)
  have hfall : slope - rate * (n + 1) ≤ -1 := by
    rw [div_lt_iff₀ hr] at hsteep
    have hm := mul_le_mul_of_nonneg_right hs hr.le
    linarith
  have hn : n * (slope - rate * (n + 1)) ≤ n * (-1 : Rat) :=
    mul_le_mul_of_nonneg_left hfall (Nat.cast_nonneg n)
  linarith

/-- Under a gravity that pulls down, a sphere without a floating height sinks, however it starts: every tick
accelerates it downwards at no less than its sinking rate, which bounds its velocity and its height, and from
some tick on it stays below any given depth. -/
theorem unfloatable_sinks (s : Scene Rat) (hg : 0 < s.gravity) (hz : s.floatingHeight? = none) {elapsed : Rat}
    (he : 0 < elapsed) :
    0 < s.sinkingRate ∧
      (∀ n : Nat,
        (∀ tick ∈ s.course (List.replicate n elapsed), tick.acceleration ≤ -s.sinkingRate) ∧
          (s.advances (List.replicate n elapsed)).sphere.velocity ≤
            s.sphere.velocity - n * s.sinkingRate * elapsed ∧
          (s.advances (List.replicate n elapsed)).sphere.height ≤
            s.sphere.height + n * s.sphere.velocity * elapsed -
              s.sinkingRate * elapsed ^ 2 * n * (n + 1) / 2) ∧
      ∀ depth, ∃ enough : Nat, ∀ n, enough ≤ n →
        (s.advances (List.replicate n elapsed)).sphere.height < depth := by
  have hc := sinkingRate_pos hg (s.floatingHeight?_eq_none_iff.mp hz)
  refine ⟨hc, fun n => ⟨course_acceleration_le hg _, velocity_le hg he.le n, height_le hg he.le n⟩,
    fun depth => ?_⟩
  have hr : 0 < s.sinkingRate * elapsed ^ 2 / 2 := half_pos (mul_pos hc (pow_pos he 2))
  obtain ⟨enough, h⟩ := parabola_passes hr s.sphere.height (s.sphere.velocity * elapsed) depth
  refine ⟨enough, fun n hn => (height_le hg he.le n).trans_lt ?_⟩
  have hp := h n hn
  linarith

/-- A sphere of twice the water's density, thrown up from well above the water. -/
def thrown : Scene Rat where
  sphere :=
    { radius := 4, mass := Sphere.volumeOf 4 * 2000, height := 9, velocity := 10
      radius_positive := by decide +kernel, mass_positive := by decide +kernel }
  water := .fresh
  gravity := 9.81

theorem thrown_sinks :
    0 < thrown.gravity ∧ thrown.floatingHeight? = none ∧ thrown.sinkingRate = 4.905 ∧
      (thrown.advances (List.replicate 8 0.25)).sphere.velocity ≤ 0.19 ∧
      ∃ enough : Nat, ∀ n, enough ≤ n → (thrown.advances (List.replicate n 0.25)).sphere.height < -1000 := by
  have hg : 0 < thrown.gravity := by decide +kernel
  have hz : thrown.floatingHeight? = none := by decide +kernel
  have hr : thrown.sinkingRate = 4.905 := by decide +kernel
  have he : (0 : Rat) < 0.25 := by decide +kernel
  obtain ⟨-, hbounds, hdeep⟩ := unfloatable_sinks thrown hg hz he
  obtain ⟨-, hv, -⟩ := hbounds 8
  refine ⟨hg, hz, hr, hv.trans ?_, hdeep (-1000)⟩
  rw [hr]
  decide +kernel

end Flotation.Scene
