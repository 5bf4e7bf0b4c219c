import Flotation.Fault
import Flotation.Scalar

/-! A rigid sphere that moves along the vertical. Heights are those of its centre above the
water surface, and velocities point up. -/
namespace Flotation

/-- Radius and mass are fixed when the sphere is made, and usable from then on. -/
structure Sphere (α : Type) [Scalar α] where
  radius : α
  mass : α
  height : α
  velocity : α
  radius_positive : Scalar.IsPositive radius
  mass_positive : Scalar.IsPositive mass

namespace Sphere
variable {α : Type} [Scalar α]

/-- The circle constant of the volume model. -/
def pi : α := 3.1415926535897

/-- Reference volume for a radius. Its coefficient is three quarters, not four thirds; mass and
buoyant force both come from it. -/
def volumeOf (radius : α) : α := 3.0 / 4.0 * pi * radius * radius * radius

/-- Make a sphere, if its radius and its mass are positive and finite. The radius is looked at
first. -/
def make (radius mass height velocity : α) : Except Fault (Sphere α) :=
  if radius_positive : Scalar.IsPositive radius then
    if mass_positive : Scalar.IsPositive mass then
      .ok { radius, mass, height, velocity, radius_positive, mass_positive }
    else .error (.unusable "sphere.mass" (Scalar.toFloat mass))
  else .error (.unusable "sphere.radius" (Scalar.toFloat radius))

def volume (s : Sphere α) : α := volumeOf s.radius

def diameter (s : Sphere α) : α := 2.0 * s.radius

/-- Height of the lowest point. -/
def bottom (s : Sphere α) : α := s.height - s.radius

/-- The share of the volume that displaces water: none above the surface, all of it below, and
in between linear in the depth of the lowest point. This is not the volume of a cap. -/
def submersion (s : Sphere α) : α :=
  if 0.0 ≤ s.bottom then 0.0
  else if s.bottom ≤ -s.diameter then 1.0
  else -s.bottom / s.diameter

/-- The same sphere elsewhere, at another velocity. -/
def moved (s : Sphere α) (height velocity : α) : Sphere α := { s with height, velocity }

end Sphere
end Flotation
