import Flotation.Fault
import Flotation.Scalar

/-! Still water below the height zero. -/
namespace Flotation

structure Water (α : Type) [Scalar α] where
  density : α
  density_positive : Scalar.IsPositive density

/-- Make a body of water, if its density is positive and finite. -/
def Water.make {α : Type} [Scalar α] (density : α) : Except Fault (Water α) :=
  if density_positive : Scalar.IsPositive density then .ok { density, density_positive }
  else .error (.unusable "water.density" (Scalar.toFloat density))

end Flotation
