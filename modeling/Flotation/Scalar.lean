import Flotation.Binary64

/-! The numbers that the laws of motion are written over. Doubles and singles round every
operation; rationals are exact, and what is proved over them is about the laws themselves. What is
counted fits into 64 bits, whatever the numbers are. -/
namespace Flotation

class Scalar (α : Type) extends Add α, Sub α, Mul α, Div α, Neg α, LT α, LE α, OfScientific α where
  decideLt : (a b : α) → Decidable (a < b)
  decideLe : (a b : α) → Decidable (a ≤ b)
  /-- Neither infinite nor a NaN. -/
  isFinite : α → Bool
  /-- The value as it is written in logs and messages. -/
  toFloat : α → Float
  /-- The value as a count, its fraction dropped. -/
  toCount : α → Nat

namespace Scalar
variable {α : Type} [Scalar α]

instance (a b : α) : Decidable (a < b) := decideLt a b
instance (a b : α) : Decidable (a ≤ b) := decideLe a b

/-- Finite and above zero: what a radius, a mass and a density have to be. -/
def IsPositive (x : α) : Prop := isFinite x = true ∧ ¬ x ≤ 0.0

instance (x : α) : Decidable (IsPositive x) := inferInstanceAs (Decidable (_ ∧ _))

/-- What a number too great for a count is taken for. No result of that conversion is defined in general; zero is
the choice of the platform. -/
def overflowCount : Nat := 0

/-- Counts have 64 bits. -/
def counted (n : Nat) : Nat := if n < 1 <<< 64 then n else overflowCount

def countOf (x : Binary64) : Nat := counted x.wholePart

end Scalar

instance : Scalar Float where
  decideLt _ _ := inferInstance
  decideLe _ _ := inferInstance
  isFinite := Float.isFinite
  toFloat x := x
  toCount x := Scalar.countOf (.ofFloat x)

instance : Scalar Float32 where
  decideLt _ _ := inferInstance
  decideLe _ _ := inferInstance
  isFinite := Float32.isFinite
  toFloat := Float32.toFloat
  toCount x := Scalar.countOf (.ofFloat x.toFloat)

/-- Rationals are all finite. They are counted in 64 bits like the others. -/
instance : Scalar Rat where
  decideLt _ _ := inferInstance
  decideLe _ _ := inferInstance
  isFinite _ := true
  toFloat x := Float.ofInt x.num / Float.ofNat x.den
  toCount x := Scalar.counted x.floor.toNat

end Flotation
