/-! Double-precision numbers taken apart: a sign, a whole mantissa and a power of two.
Everything that needs the exact value of a double (its text, its whole part) starts here. -/
namespace Flotation

/-- The value of a double. A finite one is the mantissa times two to the exponent, with its
sign kept apart, so that the two zeros differ. The sign of a NaN is not kept. -/
inductive Binary64 where
  | nan
  | infinite (negative : Bool)
  | finite (negative : Bool) (mantissa : Nat) (exponent : Int)
  deriving DecidableEq, Repr

namespace Binary64

/-- Read a 64-bit word in interchange format. Subnormal numbers share the smallest exponent
and lack the hidden leading bit. -/
def ofBits (bits : Nat) : Binary64 :=
  let negative := (bits >>> 63) % 2 == 1
  let biased : Nat := (bits >>> 52) % 2048
  let hidden : Nat := 1 <<< 52
  let fraction : Nat := bits % hidden
  if biased = 2047 then
    if fraction = 0 then .infinite negative else .nan
  else if biased = 0 then .finite negative fraction (-1074)
  else .finite negative (hidden + fraction) ((biased : Int) - 1075)

def ofFloat (x : Float) : Binary64 := ofBits x.toBits.toNat

/-- The magnitude of a finite number as a quotient of natural numbers, one of which is scaled
by a power of two. -/
def fraction (mantissa : Nat) (exponent : Int) : Nat × Nat :=
  (mantissa <<< exponent.toNat, 1 <<< (-exponent).toNat)

theorem fraction_den_pos (mantissa : Nat) (exponent : Int) :
    0 < (fraction mantissa exponent).2 := by
  simp only [fraction, Nat.shiftLeft_eq, Nat.one_mul]
  exact Nat.pow_pos (by decide)

/-- The largest natural number that is not above the value; zero for a negative number, an
infinity or a NaN. -/
def wholePart : Binary64 → Nat
  | .finite false mantissa exponent =>
    let (num, den) := fraction mantissa exponent
    num / den
  | _ => 0

/-- The natural number nearest to the value, a half going up; zero where there is none. -/
def nearest : Binary64 → Nat
  | .finite false mantissa exponent =>
    let (num, den) := fraction mantissa exponent
    (2 * num + den) / (2 * den)
  | _ => 0

end Binary64
end Flotation
