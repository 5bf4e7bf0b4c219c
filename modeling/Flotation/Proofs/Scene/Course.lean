import Flotation.Scene.Basic

/-! Scenes tick by tick, over numbers of any kind. -/
namespace Flotation.Scene
variable {α : Type} [Scalar α]

/-- The scene after ticks of the given lengths, the first of them first. -/
def advances (s : Scene α) (lengths : List α) : Scene α := lengths.foldl advance s

/-- What each of these ticks computes. -/
def course (s : Scene α) : List α → List (Tick α)
  | [] => []
  | elapsed :: rest => s.tick elapsed :: (s.advance elapsed).course rest

/-- The share of its volume that a sphere has to displace for the water to carry it. -/
def floatingRatio (s : Scene α) : α := s.sphere.mass / (s.sphere.volume * s.water.density)

variable (s : Scene α) (elapsed : α)

@[simp] theorem height_advance : (s.advance elapsed).sphere.height = (s.tick elapsed).height := rfl

@[simp] theorem velocity_advance : (s.advance elapsed).sphere.velocity = (s.tick elapsed).velocity := rfl

@[simp] theorem advances_nil : s.advances [] = s := rfl

@[simp] theorem advances_concat (lengths : List α) :
    s.advances (lengths ++ [elapsed]) = (s.advances lengths).advance elapsed := by
  rw [advances, List.foldl_append]
  rfl

/-- A further tick begins where those before it have ended. -/
theorem course_concat (lengths : List α) :
    s.course (lengths ++ [elapsed]) = s.course lengths ++ [(s.advances lengths).tick elapsed] := by
  induction lengths generalizing s with
  | nil => rfl
  | cons first rest ih => exact congrArg (s.tick first :: ·) (ih (s.advance first))

/-- Ticks change nothing but the motion of the sphere. -/
theorem advances_moves (lengths : List α) :
    ∃ height velocity, s.advances lengths = { s with sphere := s.sphere.moved height velocity } := by
  induction lengths generalizing s with
  | nil => exact ⟨s.sphere.height, s.sphere.velocity, rfl⟩
  | cons elapsed rest ih =>
    obtain ⟨height, velocity, h⟩ := ih (s.advance elapsed)
    exact ⟨height, velocity, h⟩

/-- In the water buoyancy has its share in a tick. -/
theorem tick_wet (h : 0.0 < s.sphere.submersion) :
    s.tick elapsed = s.fall elapsed s.sphere.submersion (s.buoyancy s.sphere.submersion)
      (s.buoyancy s.sphere.submersion / s.sphere.mass)
      (s.sphere.velocity + s.buoyancy s.sphere.submersion / s.sphere.mass * elapsed) := if_pos h

/-- Above the water gravity acts alone. -/
theorem tick_dry (h : ¬ 0.0 < s.sphere.submersion) :
    s.tick elapsed = s.fall elapsed s.sphere.submersion 0.0 0.0 s.sphere.velocity := if_neg h

@[simp] theorem tick_ratio : (s.tick elapsed).ratio = s.sphere.submersion := by
  by_cases h : (0.0 : α) < s.sphere.submersion
  · rw [s.tick_wet elapsed h, fall]
  · rw [s.tick_dry elapsed h, fall]

/-- It is the new velocity that moves the sphere. -/
theorem tick_height :
    (s.tick elapsed).height = s.sphere.height + (s.tick elapsed).velocity * elapsed := by
  by_cases h : (0.0 : α) < s.sphere.submersion
  · rw [s.tick_wet elapsed h, fall]
  · rw [s.tick_dry elapsed h, fall]

end Flotation.Scene
