import Flotation.Scene.Basic

/-! The named constants of a scene: defaults, validation, and the scene they describe. The
defaults release a sphere of one metre and a quarter of the water's density one metre above
the surface. -/
namespace Flotation

structure SphereSetup (β : Type) where
  radius : β
  density : β
  initialHeight : β
  initialVelocity : β

structure WaterSetup (β : Type) where
  density : β

structure SceneSetup (β : Type) where
  sphere : SphereSetup β
  water : WaterSetup β
  gravity : β

variable {β : Type} [Scalar β] {α : Type} [Scalar α]

namespace SphereSetup

def standard : SphereSetup β := ⟨1.0, 250.0, 1.0, 0.0⟩

def issues (c : SphereSetup β) : List Issue :=
  Issue.require (decide (Scalar.IsPositive c.radius)) .radiusNotPositive ++
  Issue.require (decide (Scalar.IsPositive c.density)) .densityNotPositive ++
  Issue.require (Scalar.isFinite c.initialHeight) .initialHeightNotFinite ++
  Issue.require (Scalar.isFinite c.initialVelocity) .initialVelocityNotFinite

/-- The sphere described. Issues are looked for before the numbers are converted, and the mass
is made of converted ones. -/
def build (convert : β → α) (c : SphereSetup β) : Except Fault (Sphere α) :=
  if c.issues.isEmpty then
    let radius := convert c.radius
    Sphere.make radius (convert c.density * Sphere.volumeOf radius)
      (convert c.initialHeight) (convert c.initialVelocity)
  else .error (.setup (.issues c.issues) {})

end SphereSetup

namespace WaterSetup

def standard : WaterSetup β := ⟨1000.0⟩

def issues (c : WaterSetup β) : List Issue :=
  Issue.require (decide (Scalar.IsPositive c.density)) .waterDensityNotPositive

def build (convert : β → α) (c : WaterSetup β) : Except Fault (Water α) :=
  Water.make (convert c.density)

end WaterSetup

namespace SceneSetup

def standard : SceneSetup β := ⟨.standard, .standard, 9.81⟩

def issues (c : SceneSetup β) : List Issue :=
  c.sphere.issues ++ c.water.issues ++
    Issue.require (Scalar.isFinite c.gravity) .gravityNotFinite

/-- The scene described: gravity is looked at first, then the sphere, then the water. -/
def build (convert : β → α) (c : SceneSetup β) : Except Fault (Scene α) :=
  if Scalar.isFinite c.gravity then do
    let sphere ← c.sphere.build convert
    let water ← c.water.build convert
    return { sphere, water, gravity := convert c.gravity }
  else .error (.setup .gravityNotFinite {})

end SceneSetup
end Flotation
