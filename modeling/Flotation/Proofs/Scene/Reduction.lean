import Flotation.Proofs.Scene.Floating
import Flotation.Proofs.Setup.Building

/-! Reduction, over the rationals. Mass and buoyant force are both made of the reference volume, and so the
volume cancels out of the motion: what is left are the radius, the two densities and gravity. -/
namespace Flotation

/-- The submersion of a sphere, told from its radius and its height. -/
def Sphere.submersionAt {α : Type} [Scalar α] (radius height : α) : α :=
  if 0.0 ≤ height - radius then 0.0
  else if height - radius ≤ -(2.0 * radius) then 1.0
  else -(height - radius) / (2.0 * radius)

theorem Sphere.submersion_eq {α : Type} [Scalar α] (s : Sphere α) :
    s.submersion = submersionAt s.radius s.height := rfl

/-- What a tick reports of the motion. -/
structure Stride where
  ratio : Rat
  acceleration : Rat
  height : Rat
  velocity : Rat
  deriving DecidableEq

def Tick.stride (t : Tick Rat) : Stride := ⟨t.ratio, t.acceleration, t.height, t.velocity⟩

/-- A scene without mass and volume. -/
structure Reduced where
  radius : Rat
  density : Rat
  waterDensity : Rat
  gravity : Rat
  height : Rat
  velocity : Rat

namespace Reduced

def ratio (r : Reduced) : Rat := Sphere.submersionAt r.radius r.height

def acceleration (r : Reduced) : Rat := r.gravity * (r.ratio * r.waterDensity / r.density - 1)

/-- The velocity changes first, and the new one moves the sphere. -/
def next (r : Reduced) (elapsed : Rat) : Reduced :=
  let velocity := r.velocity + r.acceleration * elapsed
  { r with height := r.height + velocity * elapsed, velocity }

def course (r : Reduced) : List Rat → List Stride
  | [] => []
  | elapsed :: rest =>
    let next := r.next elapsed
    ⟨r.ratio, r.acceleration, next.height, next.velocity⟩ :: next.course rest

end Reduced

variable {β : Type}

/-- The constants of a setup, none of which is a mass or a volume. -/
def SceneSetup.reduced (convert : β → Rat) (c : SceneSetup β) : Reduced where
  radius := convert c.sphere.radius
  density := convert c.sphere.density
  waterDensity := convert c.water.density
  gravity := convert c.gravity
  height := convert c.sphere.initialHeight
  velocity := convert c.sphere.initialVelocity

namespace Scene

/-- The scene moves by the constants of the reduced one, and has the mass that goes with its density. -/
structure ReducesTo (s : Scene Rat) (r : Reduced) : Prop where
  radius_eq : s.sphere.radius = r.radius
  mass_eq : s.sphere.mass = r.density * Sphere.volumeOf r.radius
  water_eq : s.water.density = r.waterDensity
  gravity_eq : s.gravity = r.gravity
  height_eq : s.sphere.height = r.height
  velocity_eq : s.sphere.velocity = r.velocity

/-- A scene that is built takes its mass from the density and the volume of the sphere. -/
theorem reducesTo_of_build [Scalar β] {convert : β → Rat} {c : SceneSetup β} {s : Scene Rat}
    (h : c.build convert = .ok s) : s.ReducesTo (c.reduced convert) := by
  obtain ⟨hs, hw, hg⟩ := SceneSetup.build_eq_ok h
  obtain ⟨hr, hm, hh, hv⟩ := SphereSetup.build_eq_ok hs
  exact ⟨hr, hm, Water.make_eq_ok hw, hg, hh, hv⟩

namespace ReducesTo
variable {s : Scene Rat} {r : Reduced}

theorem ratio_eq (h : s.ReducesTo r) : s.sphere.submersion = r.ratio := by
  rw [Sphere.submersion_eq, h.radius_eq, h.height_eq]
  rfl

theorem density_pos (h : s.ReducesTo r) : 0 < r.density := by
  have hm := s.sphere.mass_pos
  have hv := s.sphere.volume_pos
  rw [Sphere.volume, h.radius_eq] at hv
  rw [h.mass_eq] at hm
  exact pos_of_mul_pos_left hm hv.le

theorem waterDensity_pos (h : s.ReducesTo r) : 0 < r.waterDensity := by
  rw [← h.water_eq]
  exact s.water.density_pos

/-- The share with which the sphere floats is the ratio of the densities. -/
theorem floatingRatio_eq (h : s.ReducesTo r) : s.floatingRatio = r.density / r.waterDensity := by
  have hv := s.sphere.volume_pos
  have hw := h.waterDensity_pos
  rw [Sphere.volume, h.radius_eq] at hv
  rw [floatingRatio, Sphere.volume, h.radius_eq, h.mass_eq, h.water_eq]
  field_simp

theorem acceleration_eq (h : s.ReducesTo r) (elapsed : Rat) :
    (s.tick elapsed).acceleration = r.acceleration := by
  have hd := h.density_pos
  have hw := h.waterDensity_pos
  rw [tick_acceleration, h.ratio_eq, h.floatingRatio_eq, h.gravity_eq, Reduced.acceleration]
  field_simp

theorem advance_velocity_eq (h : s.ReducesTo r) (elapsed : Rat) :
    (s.advance elapsed).sphere.velocity = (r.next elapsed).velocity := by
  rw [velocity_advance, tick_velocity, h.acceleration_eq, h.velocity_eq]
  rfl

theorem advance_height_eq (h : s.ReducesTo r) (elapsed : Rat) :
    (s.advance elapsed).sphere.height = (r.next elapsed).height := by
  rw [height_advance, tick_height, ← velocity_advance, h.advance_velocity_eq, h.height_eq]
  rfl

/-- A tick takes both scenes the same way. -/
theorem advance (h : s.ReducesTo r) (elapsed : Rat) : (s.advance elapsed).ReducesTo (r.next elapsed) :=
  ⟨h.radius_eq, h.mass_eq, h.water_eq, h.gravity_eq, h.advance_height_eq elapsed, h.advance_velocity_eq elapsed⟩

theorem advances (h : s.ReducesTo r) (lengths : List Rat) :
    (s.advances lengths).ReducesTo (lengths.foldl Reduced.next r) := by
  induction lengths generalizing s r with
  | nil => exact h
  | cons elapsed rest ih => exact ih (h.advance elapsed)

theorem stride_eq (h : s.ReducesTo r) (elapsed : Rat) :
    (s.tick elapsed).stride =
      ⟨r.ratio, r.acceleration, (r.next elapsed).height, (r.next elapsed).velocity⟩ := by
  rw [Tick.stride, tick_ratio, h.ratio_eq, h.acceleration_eq, ← height_advance, ← velocity_advance,
    h.advance_height_eq, h.advance_velocity_eq]

theorem course_eq (h : s.ReducesTo r) (lengths : List Rat) :
    (s.course lengths).map Tick.stride = r.course lengths := by
  induction lengths generalizing s r with
  | nil => rfl
  | cons elapsed rest ih =>
    rw [course, List.map_cons, h.stride_eq, ih (h.advance elapsed)]
    rfl

theorem floatingHeight?_eq (h : s.ReducesTo r) :
    s.floatingHeight? =
      if r.density ≤ r.waterDensity then some (r.radius * (1 - 2 * r.density / r.waterDensity)) else none := by
  have hw := h.waterDensity_pos
  have hs : 1 < s.floatingRatio ↔ ¬ r.density ≤ r.waterDensity := by
    rw [h.floatingRatio_eq, one_lt_div hw, not_le]
  rw [Scene.floatingHeight?_eq, if_congr hs rfl rfl, ite_not, restHeight, h.floatingRatio_eq, h.radius_eq]
  congr 2
  ring

end ReducesTo

/-- A sphere that is made from its density moves as if it had neither mass nor volume, whatever the ticks:
what they report and where they lead is told by the reduced scene. Wherever the sphere gets to, the height at
which it floats is a matter of its radius and the two densities. -/
theorem volume_cancels [Scalar β] {convert : β → Rat} {c : SceneSetup β} {s : Scene Rat}
    (h : c.build convert = .ok s) (lengths : List Rat) :
    (s.course lengths).map Tick.stride = (c.reduced convert).course lengths ∧
      (s.advances lengths).sphere.height = (lengths.foldl Reduced.next (c.reduced convert)).height ∧
      (s.advances lengths).sphere.velocity = (lengths.foldl Reduced.next (c.reduced convert)).velocity ∧
      (s.advances lengths).floatingHeight? =
        if convert c.sphere.density ≤ convert c.water.density then
          some (convert c.sphere.radius * (1 - 2 * convert c.sphere.density / convert c.water.density))
        else none := by
  have hr := reducesTo_of_build h
  have ha := hr.advances lengths
  refine ⟨hr.course_eq lengths, ha.height_eq, ha.velocity_eq, ?_⟩
  obtain ⟨height, velocity, he⟩ := s.advances_moves lengths
  have hf : (s.advances lengths).floatingHeight? = s.floatingHeight? := by
    rw [he]
    rfl
  rw [hf, hr.floatingHeight?_eq]
  rfl

/-- The standard sphere on its way into the water: it falls, dives, and is slowed down. -/
theorem standard_volume_cancels :
    ∃ s, (SceneSetup.standard : SceneSetup Rat).build id = .ok s ∧
      (s.course [1 / 4, 1 / 2]).map Tick.stride = (SceneSetup.standard.reduced id).course [1 / 4, 1 / 2] ∧
      (s.course [1 / 4, 1 / 2]).map (·.ratio) = [0, 981 / 3200] ∧
      (s.advances [1 / 4, 1 / 2]).floatingHeight? = some (1 / 2) := by
  have hb : ((SceneSetup.standard : SceneSetup Rat).build id).toOption.any (fun s =>
      decide ((s.course [1 / 4, 1 / 2]).map (·.ratio) = [0, 981 / 3200])) = true := by decide +kernel
  cases hs : (SceneSetup.standard : SceneSetup Rat).build id with
  | error fault =>
    rw [hs] at hb
    cases hb
  | ok s =>
    rw [hs] at hb
    obtain ⟨hcourse, -, -, hheight⟩ := volume_cancels hs [1 / 4, 1 / 2]
    refine ⟨s, rfl, hcourse, of_decide_eq_true hb, hheight.trans ?_⟩
    decide +kernel

end Scene
end Flotation
