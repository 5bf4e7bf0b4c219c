import Flotation.Text

/-! What validation can find wrong with a setup. -/
namespace Flotation

inductive Issue where
  | radiusNotPositive
  | densityNotPositive
  | initialHeightNotFinite
  | initialVelocityNotFinite
  | waterDensityNotPositive
  | gravityNotFinite
  | tickLengthNotPositive
  | timesNotFinite
  | endBeforeStart
  | logFileUnnamed
  deriving DecidableEq, Repr

namespace Issue

def text : Issue → String
  | .radiusNotPositive => "sphere.radius must be positive and finite"
  | .densityNotPositive => "sphere.density must be positive and finite"
  | .initialHeightNotFinite => "sphere.initial_height must be finite"
  | .initialVelocityNotFinite => "sphere.initial_velocity must be finite"
  | .waterDensityNotPositive => "water.density must be positive and finite"
  | .gravityNotFinite => "gravity must be finite"
  | .tickLengthNotPositive => "time.dt must be positive and finite"
  | .timesNotFinite => "time.start and time.end must be finite"
  | .endBeforeStart => "time.end must not be before time.start"
  | .logFileUnnamed => "logging.file_enabled requires logging.file_path"

/-- All issues found, in one line. -/
def summary (found : List Issue) : String := Text.joined (found.map text)

/-- The issue is reported if its condition fails. -/
def require (holds : Bool) (issue : Issue) : List Issue := if holds then [] else [issue]

end Issue
end Flotation
