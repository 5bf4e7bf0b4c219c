import Flotation.Proofs.Scene.Exact

/-! Where a sphere floats, over the rationals: the heights at which the water carries its weight, and its
rest at the greatest of them. -/
namespace Flotation.Scene
variable (s : Scene Rat)

/-- At this height the buoyant force carries the weight of the sphere. -/
def Balances (height : Rat) : Prop :=
  s.buoyancy (s.sphere.moved height s.sphere.velocity).submersion = s.sphere.mass * s.gravity

/-- The height at which the sphere displaces just the share of its volume that it needs to float, if it were
to be found on the ramp. -/
def restHeight : Rat := s.sphere.radius - 2 * s.sphere.radius * s.floatingRatio

/-- The scene with its sphere at rest at a height. -/
def resting (height : Rat) : Scene Rat := { s with sphere := s.sphere.moved height 0 }

theorem floatingHeight?_eq :
    s.floatingHeight? = if 1 < s.floatingRatio then none else some s.restHeight := by
  rw [floatingHeight?, restHeight, floatingRatio, Sphere.diameter_eq]
  norm_num

theorem floatingHeight?_eq_some_iff {z : Rat} :
    s.floatingHeight? = some z ↔ s.floatingRatio ≤ 1 ∧ z = s.restHeight := by
  rw [floatingHeight?_eq]
  split
  · rename_i h
    simp [h]
  · rename_i h
    simp [not_lt.mp h, eq_comm]

theorem floatingHeight?_eq_none_iff : s.floatingHeight? = none ↔ 1 < s.floatingRatio := by
  rw [floatingHeight?_eq]
  split
  · simp [*]
  · simp [*]

variable {s}

theorem balances_iff (hg : 0 < s.gravity) (height : Rat) :
    s.Balances height ↔ (s.sphere.moved height s.sphere.velocity).submersion = s.floatingRatio := by
  have hw : s.sphere.mass * s.gravity ≠ 0 := (mul_pos s.sphere.mass_pos hg).ne'
  rw [Balances, buoyancy_eq, mul_eq_right₀ hw, div_eq_one_iff_eq s.floatingRatio_pos.ne']

theorem restHeight_lt_radius : s.restHeight < s.sphere.radius := by
  have h := mul_pos s.sphere.radius_pos s.floatingRatio_pos
  rw [restHeight]
  linarith

theorem neg_radius_le_restHeight (h : s.floatingRatio ≤ 1) : -s.sphere.radius ≤ s.restHeight := by
  have hr := mul_le_mul_of_nonneg_left h s.sphere.radius_pos.le
  rw [restHeight]
  linarith

/-- No balancing height is above the height of rest, and only below the ramp can it be another one. -/
theorem eq_restHeight_or_below {height : Rat}
    (h : (s.sphere.moved height s.sphere.velocity).submersion = s.floatingRatio) :
    height = s.restHeight ∨ height ≤ -s.sphere.radius ∧ s.floatingRatio = 1 := by
  have hr := s.sphere.radius_pos
  have hf := s.floatingRatio_pos
  rcases (s.sphere.moved height s.sphere.velocity).submersion_cases with
    ⟨_, hs⟩ | ⟨hl, hs⟩ | ⟨_, _, hs⟩ <;> rw [h] at hs
  · exact absurd hs hf.ne'
  · exact .inr ⟨hl, hs⟩
  · left
    change s.floatingRatio = (s.sphere.radius - height) / (2 * s.sphere.radius) at hs
    rw [restHeight, hs]
    field_simp
    ring

theorem submersion_restHeight (h : s.floatingRatio ≤ 1) (velocity : Rat) :
    (s.sphere.moved s.restHeight velocity).submersion = s.floatingRatio := by
  have hr := s.sphere.radius_pos
  rw [Sphere.submersion_between _ (neg_radius_le_restHeight h) restHeight_lt_radius.le]
  change (s.sphere.radius - s.restHeight) / (2 * s.sphere.radius) = s.floatingRatio
  rw [restHeight]
  field_simp
  ring

/-- A scene that stays the same in every tick stays the same, and so do its ticks. -/
private theorem stays (t : Scene Rat) (h : ∀ elapsed, t.advance elapsed = t ∧ (t.tick elapsed).acceleration = 0)
    (lengths : List Rat) : t.advances lengths = t ∧ ∀ tick ∈ t.course lengths, tick.acceleration = 0 := by
  induction lengths with
  | nil => exact ⟨rfl, by simp [course]⟩
  | cons elapsed rest ih =>
    obtain ⟨ha, ht⟩ := h elapsed
    rw [advances, List.foldl_cons, course, ha, List.forall_mem_cons]
    exact ⟨ih.1, ht, ih.2⟩

theorem rests (h : s.floatingRatio ≤ 1) (elapsed : Rat) :
    (s.resting s.restHeight).advance elapsed = s.resting s.restHeight ∧
      ((s.resting s.restHeight).tick elapsed).acceleration = 0 := by
  have ha : ((s.resting s.restHeight).tick elapsed).acceleration = 0 := by
    rw [tick_acceleration]
    change s.gravity * ((s.sphere.moved s.restHeight 0).submersion / s.floatingRatio - 1) = 0
    rw [submersion_restHeight h, div_self s.floatingRatio_pos.ne', sub_self, mul_zero]
  have hv : ((s.resting s.restHeight).tick elapsed).velocity = 0 := by
    rw [tick_velocity, ha]
    change (0 : Rat) + 0 * elapsed = 0
    ring
  have hh : ((s.resting s.restHeight).tick elapsed).height = s.restHeight := by
    rw [tick_height, hv]
    change s.restHeight + 0 * elapsed = s.restHeight
    ring
  refine ⟨?_, ha⟩
  rw [advance, after, hv, hh]
  rfl

theorem floats_iff (hg : 0 < s.gravity) : s.floatingRatio ≤ 1 ↔ ∃ height, s.Balances height := by
  constructor
  · intro h
    exact ⟨s.restHeight, (balances_iff hg _).mpr (submersion_restHeight h _)⟩
  · rintro ⟨height, h⟩
    rw [← (balances_iff hg height).mp h]
    exact Sphere.submersion_le_one _

/-- A height that balances and all that is said of it. -/
structure FloatsAt (s : Scene Rat) (z : Rat) : Prop where
  balances : s.Balances z
  greatest : ∀ height, s.Balances height → height ≤ z
  on_ramp : -s.sphere.radius ≤ z ∧ z < s.sphere.radius
  unique : z ≠ -s.sphere.radius → ∀ height, s.Balances height → height = z
  stationary : ∀ lengths : List Rat, (s.resting z).advances lengths = s.resting z ∧
    ∀ tick ∈ (s.resting z).course lengths, tick.acceleration = 0

theorem floatsAt_restHeight (hg : 0 < s.gravity) (h : s.floatingRatio ≤ 1) : s.FloatsAt s.restHeight := by
  have hl := neg_radius_le_restHeight h
  have hb (height : Rat) (hb : s.Balances height) :
      height = s.restHeight ∨ height ≤ -s.sphere.radius ∧ s.floatingRatio = 1 :=
    eq_restHeight_or_below ((balances_iff hg height).mp hb)
  refine ⟨?_, ?_, ⟨hl, restHeight_lt_radius⟩, ?_, stays _ (rests h)⟩
  · exact (balances_iff hg _).mpr (submersion_restHeight h _)
  · intro height hh
    rcases hb height hh with he | ⟨hle, _⟩
    · exact he.le
    · exact hle.trans hl
  · intro hne height hh
    rcases hb height hh with he | ⟨_, ho⟩
    · exact he
    · -- With a ratio of one the height of rest is the lower end of the ramp.
      refine absurd ?_ hne
      rw [restHeight, ho]
      ring

/-- Under a gravity that pulls down, a floating height is given just if some height balances the sphere. It
is the greatest that does, and the only one unless the sphere is as dense as the water. Put there without a
velocity the sphere stays, whatever the ticks. If none is given, no height balances. -/
theorem floating_height_balances (s : Scene Rat) (hg : 0 < s.gravity) :
    ((∃ z, s.floatingHeight? = some z) ↔ ∃ height, s.Balances height) ∧
      (s.floatingHeight? = none ↔ ∀ height, ¬ s.Balances height) ∧
      ∀ z, s.floatingHeight? = some z → s.FloatsAt z := by
  refine ⟨?_, ?_, ?_⟩
  · rw [← floats_iff hg]
    simp only [floatingHeight?_eq_some_iff, exists_and_left, exists_eq, and_true]
  · rw [floatingHeight?_eq_none_iff, ← not_le, floats_iff hg, not_exists]
  · intro z hz
    obtain ⟨h, rfl⟩ := s.floatingHeight?_eq_some_iff.mp hz
    exact floatsAt_restHeight hg h

/-- A sphere just as dense as the water, on its way up. -/
def neutral : Scene Rat where
  sphere :=
    { radius := 2, mass := Sphere.volumeOf 2 * Water.fresh.density, height := -1, velocity := 3
      radius_positive := by decide +kernel, mass_positive := by decide +kernel }
  water := .fresh
  gravity := 9.81

theorem neutral_height_balances :
    0 < neutral.gravity ∧ neutral.floatingHeight? = some (-2) ∧
      neutral.Balances (-5) ∧ neutral.FloatsAt (-2) := by
  have hg : 0 < neutral.gravity := by decide +kernel
  have hz : neutral.floatingHeight? = some (-2) := by decide +kernel
  refine ⟨hg, hz, ?_, (floating_height_balances neutral hg).2.2 _ hz⟩
  rw [Balances]
  decide +kernel

end Flotation.Scene
