import Flotation.Scalar

/-! Doubles narrowed to singles. -/
namespace Flotation.Single
open Float.Model

/-- A number rounded to the digits and the least exponent of a single. -/
def narrowed : UnpackedFloat → UnpackedFloat
  | .finite sign mantissa exponent _ => .round Format.binary32 sign mantissa exponent
  | u => u

/-- The single nearest to a double; of two that are as near, the one with an even mantissa. A double that is too great
for a single becomes infinite. -/
def ofDouble (x : Float) : Float32 := .ofModel (.pack (narrowed x.toModel.unpack))

end Flotation.Single
