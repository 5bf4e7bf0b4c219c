import Flotation.Scene.Sphere
import Flotation.Scene.Water

/-! A sphere, the water below it and gravity, and the law by which one tick moves the sphere. -/
namespace Flotation

/-- All that a tick reads and changes. Gravity is a magnitude and pulls down. -/
structure Scene (α : Type) [Scalar α] where
  sphere : Sphere α
  water : Water α
  gravity : α

/-- What one tick computed: submersion, force and net acceleration at its start, height and
velocity at its end. -/
structure Tick (α : Type) where
  ratio : α
  force : α
  acceleration : α
  height : α
  velocity : α

/-- Whether the sphere touched the water when the tick began. -/
def Tick.submerged {α : Type} [Scalar α] (t : Tick α) : Bool := decide ((0.0 : α) < t.ratio)

namespace Scene
variable {α : Type} [Scalar α]

/-- Upward force on a sphere with the given share of its volume under water. -/
def buoyancy (s : Scene α) (ratio : α) : α :=
  s.sphere.volume * ratio * s.water.density * s.gravity

/-- Gravity acts on a velocity, and the new velocity then moves the sphere. -/
def fall (s : Scene α) (elapsed ratio force lift velocity : α) : Tick α :=
  let velocity := velocity - s.gravity * elapsed
  { ratio, force
    acceleration := lift - s.gravity
    height := s.sphere.height + velocity * elapsed
    velocity }

/-- The tick of the given length: buoyancy changes the velocity while the sphere touches the
water, gravity always does. -/
def tick (s : Scene α) (elapsed : α) : Tick α :=
  let ratio := s.sphere.submersion
  if 0.0 < ratio then
    let force := s.buoyancy ratio
    let lift := force / s.sphere.mass
    s.fall elapsed ratio force lift (s.sphere.velocity + lift * elapsed)
  else s.fall elapsed ratio 0.0 0.0 s.sphere.velocity

/-- The scene at the end of a tick. -/
def after (s : Scene α) (t : Tick α) : Scene α :=
  { s with sphere := s.sphere.moved t.height t.velocity }

/-- The scene one tick later. -/
def advance (s : Scene α) (elapsed : α) : Scene α := s.after (s.tick elapsed)

/-- The height at which the buoyant force carries the weight, unless the sphere sinks. -/
def floatingHeight? (s : Scene α) : Option α :=
  let ratio := s.sphere.mass / (s.sphere.volume * s.water.density)
  if 1.0 < ratio then none else some (s.sphere.radius - s.sphere.diameter * ratio)

end Scene
end Flotation
