import Flotation.Proofs.Scene.Ramp

/-! Reversal, over the rationals: a tick can be undone. It is the new velocity that moves the sphere, so height
and velocity at the end of a tick give the height at its start, and that height gives the acceleration. -/
namespace Flotation.Scene
variable (s : Scene Rat)

/-- Where the sphere is and how it moves. -/
def place : Rat × Rat := (s.sphere.height, s.sphere.velocity)

/-- The net acceleration of the sphere at a height. -/
def pull (height : Rat) : Rat := ((s.placed height 0).tick 0).acceleration

/-- What a tick makes of a height and a velocity. -/
def onward (elapsed : Rat) (p : Rat × Rat) : Rat × Rat := ((s.placed p.1 p.2).advance elapsed).place

/-- The height and the velocity that a tick has made into these. -/
def back (elapsed : Rat) (p : Rat × Rat) : Rat × Rat :=
  let height := p.1 - p.2 * elapsed
  (height, p.2 - s.pull height * elapsed)

/-- Neither the velocity nor the length of a tick has a part in its acceleration. -/
theorem acceleration_placed (height velocity elapsed : Rat) :
    ((s.placed height velocity).tick elapsed).acceleration = s.pull height := by
  rw [pull, tick_acceleration, tick_acceleration]
  rfl

theorem onward_eq (elapsed height velocity : Rat) :
    s.onward elapsed (height, velocity) =
      (height + (velocity + s.pull height * elapsed) * elapsed, velocity + s.pull height * elapsed) := by
  have hv : ((s.placed height velocity).tick elapsed).velocity = velocity + s.pull height * elapsed := by
    rw [tick_velocity, acceleration_placed]
    rfl
  have hh : ((s.placed height velocity).tick elapsed).height =
      height + (velocity + s.pull height * elapsed) * elapsed := by
    rw [tick_height, hv]
    rfl
  exact Prod.ext hh hv

theorem back_onward (elapsed : Rat) : Function.LeftInverse (s.back elapsed) (s.onward elapsed) := by
  rintro ⟨height, velocity⟩
  rw [onward_eq, back]
  dsimp only
  rw [add_sub_cancel_right, add_sub_cancel_right]

theorem onward_back (elapsed : Rat) : Function.RightInverse (s.back elapsed) (s.onward elapsed) := by
  rintro ⟨height, velocity⟩
  rw [back]
  dsimp only
  rw [onward_eq, sub_add_cancel, sub_add_cancel]

/-- Ticks change nothing but the place, so what they make of the scene is told from what they make of it. -/
theorem place_advances (lengths : List Rat) (p : Rat × Rat) :
    ((s.placed p.1 p.2).advances lengths).place = lengths.foldl (fun p elapsed => s.onward elapsed p) p := by
  induction lengths generalizing p with
  | nil => rfl
  | cons elapsed rest ih => exact ih (s.onward elapsed p)

theorem bijective_advances (lengths : List Rat) :
    Function.Bijective fun p : Rat × Rat => ((s.placed p.1 p.2).advances lengths).place := by
  simp only [place_advances]
  induction lengths with
  | nil => exact Function.bijective_id
  | cons elapsed rest ih =>
    have htick : Function.Bijective (s.onward elapsed) :=
      ⟨(s.back_onward elapsed).injective, (s.onward_back elapsed).surjective⟩
    exact ih.comp htick

/-- For a sphere, water and gravity that are given, a tick of any length makes heights and velocities into others
one to one: what has become `after` was at the height less the way gone with the velocity of `after`, and had that
velocity less what the acceleration reported at that height gave it. So it is with all the ticks of a run, and two
runs of the same ticks that end alike have begun alike. -/
theorem ticks_reverse (s : Scene Rat) :
    (∀ height velocity elapsed, ((s.placed height velocity).tick elapsed).acceleration = s.pull height) ∧
      (∀ elapsed, Function.Bijective (s.onward elapsed)) ∧
      (∀ elapsed height velocity after, s.onward elapsed (height, velocity) = after ↔
        height = after.1 - after.2 * elapsed ∧ velocity = after.2 - s.pull height * elapsed) ∧
      ∀ lengths, Function.Bijective fun p : Rat × Rat => ((s.placed p.1 p.2).advances lengths).place := by
  refine ⟨s.acceleration_placed, fun elapsed => s.bijective_advances [elapsed], ?_, s.bijective_advances⟩
  intro elapsed height velocity after
  constructor
  · rintro rfl
    have hb := s.back_onward elapsed (height, velocity)
    obtain ⟨hh, hv⟩ := Prod.mk.inj hb
    rw [hh] at hv
    exact ⟨hh.symm, hv.symm⟩
  · rintro ⟨hh, hv⟩
    have hb : s.back elapsed after = (height, velocity) := by rw [back, ← hh, ← hv]
    rw [← hb]
    exact s.onward_back elapsed after

end Flotation.Scene
