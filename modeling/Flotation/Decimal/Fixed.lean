import Flotation.Binary64
import Flotation.Decimal.Rounding

/-! Fixed notation: a given number of places after the point, all digits of the exact value
before it, a half going to the even neighbour. A negative number keeps its sign also when
every digit shown is zero. -/
namespace Flotation.Decimal

def sign (negative : Bool) : List Char := if negative then ['-'] else []

/-- Whole digits, a point, and the digits of the fraction; no point without a fraction. -/
def assemble (whole fraction : List Char) : List Char :=
  if fraction.isEmpty then whole else whole ++ '.' :: fraction

/-- Cut the digits of a number counted in units of the last place before that many places. -/
def splitPlaces (places units : Nat) : List Char × List Char :=
  let all := paddedDigits (places + 1) units
  all.splitAt (all.length - places)

/-- The digits of a quotient in fixed notation. -/
def fixedDigits (places num den : Nat) : List Char :=
  let (whole, fraction) := splitPlaces places (roundHalfEven (num * powerOfTen places) den)
  assemble whole fraction

/-- A double in fixed notation. -/
def fixed (places : Nat) (x : Float) : String :=
  match Binary64.ofFloat x with
  | .nan => "nan"
  | .infinite negative => String.ofList (sign negative ++ ['i', 'n', 'f'])
  | .finite negative mantissa exponent =>
    let (num, den) := Binary64.fraction mantissa exponent
    String.ofList (sign negative ++ fixedDigits places num den)

end Flotation.Decimal
