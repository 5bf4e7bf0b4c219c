import Flotation.Proofs.Scene.Reduction

/-! Units, over the rationals. The laws of motion know of no length, time or density of their own: told in other
units, a scene takes the same course. -/
namespace Flotation

/-- How many of the new units go into one of the old, for lengths, times and densities. -/
structure Units where
  length : Rat
  time : Rat
  density : Rat
  length_pos : 0 < length
  time_pos : 0 < time
  density_pos : 0 < density

namespace Units
variable (u : Units)

def velocity : Rat := u.length / u.time

def acceleration : Rat := u.length / u.time ^ 2

def mass : Rat := u.density * u.length ^ 3

def force : Rat := u.density * u.length ^ 4 / u.time ^ 2

theorem mass_pos : 0 < u.mass := mul_pos u.density_pos (pow_pos u.length_pos 3)

theorem velocity_mul_time : u.velocity * u.time = u.length := div_mul_cancel₀ _ u.time_pos.ne'

theorem acceleration_mul_time : u.acceleration * u.time = u.velocity := by
  have ht := u.time_pos
  rw [acceleration, velocity]
  field_simp

theorem mass_mul_acceleration : u.mass * u.acceleration = u.force := by
  rw [mass, acceleration, force]
  ring

end Units

variable (u : Units)

def SceneSetup.converted (c : SceneSetup Rat) : SceneSetup Rat where
  sphere :=
    { radius := u.length * c.sphere.radius
      density := u.density * c.sphere.density
      initialHeight := u.length * c.sphere.initialHeight
      initialVelocity := u.velocity * c.sphere.initialVelocity }
  water := { density := u.density * c.water.density }
  gravity := u.acceleration * c.gravity

/-- Submersion is a ratio and the same in all units. -/
def Tick.converted (t : Tick Rat) : Tick Rat where
  ratio := t.ratio
  force := u.force * t.force
  acceleration := u.acceleration * t.acceleration
  height := u.length * t.height
  velocity := u.velocity * t.velocity

def Sphere.converted (s : Sphere Rat) : Sphere Rat where
  radius := u.length * s.radius
  mass := u.mass * s.mass
  height := u.length * s.height
  velocity := u.velocity * s.velocity
  radius_positive := Scalar.isPositive_iff.mpr (mul_pos u.length_pos s.radius_pos)
  mass_positive := Scalar.isPositive_iff.mpr (mul_pos u.mass_pos s.mass_pos)

def Water.converted (w : Water Rat) : Water Rat where
  density := u.density * w.density
  density_positive := Scalar.isPositive_iff.mpr (mul_pos u.density_pos w.density_pos)

def Scene.converted (s : Scene Rat) : Scene Rat :=
  ⟨s.sphere.converted u, s.water.converted u, u.acceleration * s.gravity⟩

theorem Sphere.volumeOf_converted (radius : Rat) :
    volumeOf (u.length * radius) = u.length ^ 3 * volumeOf radius := by
  rw [volumeOf, volumeOf]
  generalize (3.0 / 4.0 * pi : Rat) = coefficient
  ring

/-- Either of the three cases of the submersion is the same case in other units. -/
theorem Sphere.submersion_converted (s : Sphere Rat) : (s.converted u).submersion = s.submersion := by
  have hu := u.length_pos
  rcases s.submersion_cases with ⟨h, hs⟩ | ⟨h, hs⟩ | ⟨hl, hr, hs⟩ <;> rw [hs]
  · exact submersion_above _ (mul_le_mul_of_nonneg_left h hu.le)
  · refine submersion_below _ ?_
    change u.length * s.height ≤ -(u.length * s.radius)
    rw [← mul_neg]
    exact mul_le_mul_of_nonneg_left h hu.le
  · have hlow : -(s.converted u).radius ≤ (s.converted u).height := by
      change -(u.length * s.radius) ≤ u.length * s.height
      rw [← mul_neg]
      exact mul_le_mul_of_nonneg_left hl.le hu.le
    rw [submersion_between _ hlow (mul_le_mul_of_nonneg_left hr.le hu.le)]
    change (u.length * s.radius - u.length * s.height) / (2 * (u.length * s.radius)) = _
    rw [← mul_sub, mul_left_comm, mul_div_mul_left _ _ hu.ne']

namespace Scene
variable (s : Scene Rat)

theorem buoyancy_converted (ratio : Rat) :
    (s.converted u).buoyancy ratio = u.force * s.buoyancy ratio := by
  change Sphere.volumeOf (u.length * s.sphere.radius) * ratio * (u.density * s.water.density) *
    (u.acceleration * s.gravity) = _
  rw [Sphere.volumeOf_converted, ← u.mass_mul_acceleration, Units.mass, buoyancy, Sphere.volume]
  ring

theorem floatingRatio_converted : (s.converted u).floatingRatio = s.floatingRatio := by
  change u.mass * s.sphere.mass / (Sphere.volumeOf (u.length * s.sphere.radius) *
    (u.density * s.water.density)) = _
  have hm : Sphere.volumeOf (u.length * s.sphere.radius) * (u.density * s.water.density) =
      u.mass * (s.sphere.volume * s.water.density) := by
    rw [Sphere.volumeOf_converted, Units.mass, Sphere.volume]
    ring
  rw [hm, mul_div_mul_left _ _ u.mass_pos.ne', floatingRatio]

theorem floatingHeight?_converted :
    (s.converted u).floatingHeight? = s.floatingHeight?.map (u.length * ·) := by
  rw [floatingHeight?_eq, floatingHeight?_eq, floatingRatio_converted, restHeight, floatingRatio_converted]
  split
  · rfl
  · rw [Option.map_some, restHeight]
    change some (u.length * s.sphere.radius - 2 * (u.length * s.sphere.radius) * s.floatingRatio) = _
    congr 1
    ring

variable (elapsed : Rat)

theorem tick_acceleration_converted : ((s.converted u).tick (u.time * elapsed)).acceleration =
    u.acceleration * (s.tick elapsed).acceleration := by
  have hs : (s.converted u).sphere.submersion = s.sphere.submersion := s.sphere.submersion_converted u
  have hg : (s.converted u).gravity = u.acceleration * s.gravity := rfl
  rw [tick_acceleration, tick_acceleration, floatingRatio_converted, hs, hg, mul_assoc]

theorem tick_velocity_converted : ((s.converted u).tick (u.time * elapsed)).velocity =
    u.velocity * (s.tick elapsed).velocity := by
  rw [tick_velocity, tick_velocity, tick_acceleration_converted]
  change u.velocity * s.sphere.velocity + _ = _
  rw [← u.acceleration_mul_time]
  ring

theorem tick_height_converted : ((s.converted u).tick (u.time * elapsed)).height =
    u.length * (s.tick elapsed).height := by
  rw [tick_height, tick_height, tick_velocity_converted]
  change u.length * s.sphere.height + _ = _
  rw [← u.velocity_mul_time]
  ring

theorem tick_force_converted : ((s.converted u).tick (u.time * elapsed)).force =
    u.force * (s.tick elapsed).force := by
  have hs : (s.converted u).sphere.submersion = s.sphere.submersion := s.sphere.submersion_converted u
  rw [tick_force, tick_force, hs, buoyancy_converted]

theorem tick_converted : (s.converted u).tick (u.time * elapsed) = (s.tick elapsed).converted u := by
  have hr : ((s.converted u).tick (u.time * elapsed)).ratio = (s.tick elapsed).ratio := by
    rw [tick_ratio, tick_ratio]
    exact s.sphere.submersion_converted u
  have hf := s.tick_force_converted u elapsed
  have ha := s.tick_acceleration_converted u elapsed
  have hh := s.tick_height_converted u elapsed
  have hv := s.tick_velocity_converted u elapsed
  rw [Tick.converted, ← hr, ← hf, ← ha, ← hh, ← hv]

/-- A tick and a conversion may change places. -/
theorem advance_converted : (s.converted u).advance (u.time * elapsed) = (s.advance elapsed).converted u := by
  rw [advance, tick_converted]
  rfl

theorem course_converted (lengths : List Rat) :
    (s.converted u).course (lengths.map (u.time * ·)) = (s.course lengths).map (Tick.converted u) := by
  induction lengths generalizing s with
  | nil => rfl
  | cons elapsed rest ih =>
    rw [List.map_cons, course, course, List.map_cons, tick_converted, advance_converted, ih]

theorem advances_converted (lengths : List Rat) :
    (s.converted u).advances (lengths.map (u.time * ·)) = (s.advances lengths).converted u := by
  induction lengths generalizing s with
  | nil => rfl
  | cons elapsed rest ih =>
    rw [List.map_cons, advances, List.foldl_cons, advance_converted]
    exact ih (s.advance elapsed)

variable {s}

/-- The constants of a setup leave no choice of a scene. -/
theorem ReducesTo.unique {s' : Scene Rat} {r : Reduced} (h : s.ReducesTo r) (h' : s'.ReducesTo r) : s = s' := by
  obtain ⟨⟨radius, mass, height, velocity, _, _⟩, ⟨density, _⟩, gravity⟩ := s
  obtain ⟨⟨radius', mass', height', velocity', _, _⟩, ⟨density', _⟩, gravity'⟩ := s'
  obtain ⟨hr, hm, hw, hg, hh, hv⟩ := h
  obtain ⟨hr', hm', hw', hg', hh', hv'⟩ := h'
  cases hr.trans hr'.symm
  cases hm.trans hm'.symm
  cases hw.trans hw'.symm
  cases hg.trans hg'.symm
  cases hh.trans hh'.symm
  cases hv.trans hv'.symm
  rfl

theorem ReducesTo.converted {c : SceneSetup Rat} (h : s.ReducesTo (c.reduced id)) :
    (s.converted u).ReducesTo ((c.converted u).reduced id) where
  radius_eq := congrArg (u.length * ·) h.radius_eq
  mass_eq := by
    change u.mass * s.sphere.mass =
      u.density * c.sphere.density * Sphere.volumeOf (u.length * c.sphere.radius)
    rw [h.mass_eq, Sphere.volumeOf_converted, Units.mass]
    change _ * (c.sphere.density * Sphere.volumeOf c.sphere.radius) = _
    ring
  water_eq := congrArg (u.density * ·) h.water_eq
  gravity_eq := congrArg (u.acceleration * ·) h.gravity_eq
  height_eq := congrArg (u.length * ·) h.height_eq
  velocity_eq := congrArg (u.velocity * ·) h.velocity_eq

/-- A setup describes a scene if its constants make one, whatever it looks like. -/
theorem build_of_reducesTo {c : SceneSetup Rat} (h : s.ReducesTo (c.reduced id)) : c.build id = .ok s := by
  have hr : Scalar.IsPositive (c.reduced id).radius := h.radius_eq ▸ s.sphere.radius_positive
  have he : s.sphere.mass = c.sphere.mass := h.mass_eq
  have hm : Scalar.IsPositive c.sphere.mass := he ▸ s.sphere.mass_positive
  have hw : Scalar.IsPositive (c.reduced id).waterDensity := h.water_eq ▸ s.water.density_positive
  have hsphere : c.sphere.issues = [] :=
    SphereSetup.issues_eq_nil.mpr ⟨hr, Scalar.isPositive_iff.mpr h.density_pos, rfl, rfl⟩
  have hwater : c.water.issues = [] := by
    rw [WaterSetup.issues, Issue.require_eq_nil, decide_eq_true_eq]
    exact hw
  obtain ⟨s', hs'⟩ := SceneSetup.build_of_mass (SceneSetup.issues_eq_nil.mpr ⟨hsphere, hwater, rfl⟩) hm
  rw [hs', (reducesTo_of_build hs').unique h]

theorem build_converted {c : SceneSetup Rat} (h : c.build id = .ok s) :
    (c.converted u).build id = .ok (s.converted u) :=
  build_of_reducesTo ((reducesTo_of_build h).converted u)

/-- Whatever the units, a setup that is accepted in the old ones is accepted in the new ones. Its scene then takes
the same course, with ticks that are as long, and floats at the same height or not at all, all told in the new
units. -/
theorem units_cancel (u : Units) {c : SceneSetup Rat} {s : Scene Rat} (h : c.build id = .ok s)
    (lengths : List Rat) :
    ∃ s', (c.converted u).build id = .ok s' ∧
      s'.course (lengths.map (u.time * ·)) = (s.course lengths).map (Tick.converted u) ∧
      (s'.advances (lengths.map (u.time * ·))).sphere.height =
        u.length * (s.advances lengths).sphere.height ∧
      (s'.advances (lengths.map (u.time * ·))).sphere.velocity =
        u.velocity * (s.advances lengths).sphere.velocity ∧
      (s'.advances (lengths.map (u.time * ·))).floatingHeight? =
        (s.advances lengths).floatingHeight?.map (u.length * ·) := by
  refine ⟨s.converted u, build_converted u h, s.course_converted u lengths, ?_⟩
  rw [advances_converted]
  exact ⟨rfl, rfl, floatingHeight?_converted u _⟩

/-- Centimetres for metres, milliseconds for seconds, and densities in grams for each cubic centimetre. -/
def smallUnits : Units where
  length := 100
  time := 1000
  density := 1 / 1000
  length_pos := by decide +kernel
  time_pos := by decide +kernel
  density_pos := by decide +kernel

/-- The standard sphere dives into the water, and its second tick is the one that starts in it. -/
theorem standard_units_cancel :
    ∃ s s', (SceneSetup.standard : SceneSetup Rat).build id = .ok s ∧
      (SceneSetup.standard.converted smallUnits).build id = .ok s' ∧
      s'.course [250, 500] = (s.course [1 / 4, 1 / 2]).map (Tick.converted smallUnits) ∧
      (s'.course [250, 500]).map (·.ratio) = [0, 981 / 3200] ∧
      (s'.advances [250, 500]).floatingHeight? = some 50 := by
  have hb : ((SceneSetup.standard : SceneSetup Rat).build id).toOption.any (fun s =>
      decide ((s.course [1 / 4, 1 / 2]).map (·.ratio) = [0, 981 / 3200]) &&
        decide ((s.advances [1 / 4, 1 / 2]).floatingHeight? = some (1 / 2))) = true := by decide +kernel
  have hl : ([1 / 4, 1 / 2] : List Rat).map (smallUnits.time * ·) = [250, 500] := by decide +kernel
  have hz : smallUnits.length * (1 / 2) = 50 := by decide +kernel
  cases hs : (SceneSetup.standard : SceneSetup Rat).build id with
  | error fault =>
    rw [hs] at hb
    cases hb
  | ok s =>
    rw [hs] at hb
    obtain ⟨hratio, hheight⟩ := Bool.and_eq_true_iff.mp hb
    obtain ⟨s', hs', hcourse, -, -, hfloats⟩ := units_cancel smallUnits hs [1 / 4, 1 / 2]
    rw [hl] at hcourse hfloats
    rw [of_decide_eq_true hheight, Option.map_some, hz] at hfloats
    refine ⟨s, s', rfl, hs', hcourse, ?_, hfloats⟩
    rw [hcourse, List.map_map]
    exact of_decide_eq_true hratio

end Scene
end Flotation
