import Flotation.Decimal.Fixed

/-! General notation: a given number of significant digits without trailing zeros, positional
for moderate magnitudes and with a power of ten for the others. -/
namespace Flotation.Decimal

/-- What general notation decides. The magnitude of a number is the power of ten of its first
digit after rounding; positional notation is kept while it is at least `lowest` and below
`significant`. -/
structure GeneralFormat where
  significant : Nat
  lowest : Int
  exponentDigits : Nat
  deriving DecidableEq, Repr

/-- Numbers in messages have six significant digits, positional from a ten-thousandth up, and
powers of ten of at least two digits. -/
def GeneralFormat.message : GeneralFormat := ⟨6, -4, 2⟩

/-- The power of ten of the first digit of a positive quotient. -/
def magnitude (num den : Nat) : Int :=
  if den ≤ num then ((digits (num / den)).length : Int) - 1
  else -((digits ((den - 1) / num)).length : Int)

/-- A positive quotient rounded to whole units of the given power of ten. -/
def roundToPower (num den : Nat) (power : Int) : Nat :=
  roundHalfEven (num * powerOfTen (-power).toNat) (den * powerOfTen power.toNat)

/-- The first `significant` digits of a positive quotient as one number, and the power of ten
of the first of them. Rounding up to the next power of ten moves that power by one. -/
def significand (significant num den : Nat) : Nat × Int :=
  let power := magnitude num den
  let units := roundToPower num den (power - ((significant : Int) - 1))
  if units = powerOfTen significant then (powerOfTen (significant - 1), power + 1) else (units, power)

/-- Remove the zeros at the end of a fraction. -/
def trimZeros (fraction : List Char) : List Char :=
  (fraction.reverse.dropWhile (· == '0')).reverse

def exponentText (format : GeneralFormat) (power : Int) : List Char :=
  'e' :: (if power < 0 then '-' else '+') :: paddedDigits format.exponentDigits power.natAbs

/-- The digits of a quotient in general notation. -/
def generalDigits (format : GeneralFormat) (num den : Nat) : List Char :=
  if num = 0 then ['0']
  else
    let (units, power) := significand format.significant num den
    if format.lowest ≤ power ∧ power < format.significant then
      let (whole, fraction) := splitPlaces ((format.significant : Int) - 1 - power).toNat units
      assemble whole (trimZeros fraction)
    else
      let (whole, fraction) := splitPlaces (format.significant - 1) units
      assemble whole (trimZeros fraction) ++ exponentText format power

/-- A double in general notation. -/
def general (format : GeneralFormat) (x : Float) : String :=
  match Binary64.ofFloat x with
  | .nan => "nan"
  | .infinite negative => String.ofList (sign negative ++ ['i', 'n', 'f'])
  | .finite negative mantissa exponent =>
    let (num, den) := Binary64.fraction mantissa exponent
    String.ofList (sign negative ++ generalDigits format num den)

/-- The text of a number inside a message. -/
def message (x : Float) : String := general .message x

end Flotation.Decimal
