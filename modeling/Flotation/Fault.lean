import Flotation.Setup.Issue
import Flotation.Decimal.General
import Flotation.Severity
import Flotation.Text

/-! Faults: the causes for which an operation is refused, with the text each is reported by. -/
namespace Flotation

/-- Why a setup or one of its constants is refused. -/
inductive SetupProblem where
  | stated (text : String)
  | unusable (key : String) (value : Float)
  | issues (found : List Issue)
  | gravityNotFinite
  | unknownLevel (name : String)
  | sinkNotCallable

def SetupProblem.text : SetupProblem → String
  | .stated text => text
  | .unusable key value =>
    "'" ++ key ++ "' must be positive and finite, got " ++ Decimal.message value
  | .issues found => Issue.summary found
  | .gravityNotFinite => "gravity must be finite"
  | .unknownLevel name => "Unknown log level '" ++ name ++ "'"
  | .sinkNotCallable => "diagnostic sink must be callable"

/-- Where a refused value came from. No file is named by the empty name, and a negative line
is not known. -/
structure Origin where
  file : String := ""
  line : Int := -1
  hint : String := ""
  deriving DecidableEq, Repr

/-- The lines that an origin adds to a message. A line is shown only with its file. -/
def Origin.text (o : Origin) : String :=
  (if o.file.isEmpty then ""
    else "\n  at: " ++ o.file ++ (if o.line < 0 then "" else ":" ++ toString o.line)) ++
  (if o.hint.isEmpty then "" else "\n  hint: " ++ o.hint)

/-- Why a tick cannot be taken. -/
inductive TickProblem where
  | stated (text : String)
  | notFinite
  | negative
  deriving DecidableEq, Repr

def TickProblem.text : TickProblem → String
  | .stated text => text
  | .notFinite => "elapsed time is not finite"
  | .negative => "elapsed time is negative"

/-- The time of a refused tick and its length, both in seconds. -/
structure RefusedTick where
  time : Float
  elapsed : Float

/-- Why a state is refused. -/
inductive StateProblem where
  | stated (text : String)
  | motionNotFinite
  | gravityNotFinite
  | timeNotFinite
  deriving DecidableEq, Repr

def StateProblem.text : StateProblem → String
  | .stated text => text
  | .motionNotFinite => "sphere height and velocity must be finite"
  | .gravityNotFinite => "gravity must be finite"
  | .timeNotFinite => "simulation time must be finite"

/-- What was attempted on which file. -/
structure Access where
  operation : String
  path : String
  deriving DecidableEq, Repr

inductive Fault where
  | general (text : String) (severity : Severity) (category : String)
  | setup (problem : SetupProblem) (origin : Origin)
  | tick (problem : TickProblem) (refused : Option RefusedTick)
  | state (problem : StateProblem)
  | file (reason : String) (access : Option Access)

namespace Fault

/-- A constant that is not positive and finite. -/
def unusable (key : String) (value : Float) : Fault := .setup (.unusable key value) {}

/-- A log file that cannot be written. -/
def unwritableLog (path : String) : Fault := .file "cannot write log file" (some ⟨"open", path⟩)

/-- A setup file that cannot be read. -/
def unreadableSetup (path : String) : Fault :=
  .file "file not found or not readable" (some ⟨"open", path⟩)

def severity : Fault → Severity
  | .general _ severity _ => severity
  | .state _ => .fatal
  | .setup .. | .tick .. | .file .. => .error

/-- The part of the program that a fault is attributed to when it is logged. -/
def category : Fault → String
  | .general _ _ category => category
  | .setup .. => "config"
  | .tick .. => "integration"
  | .state _ => "state"
  | .file .. => "io"

/-- The whole text of a fault without the program's name. -/
def detail : Fault → String
  | .general text _ _ => text
  | .setup problem origin => "Config: " ++ problem.text ++ origin.text
  | .tick problem none => "Integration: " ++ problem.text
  | .tick problem (some refused) =>
    "Integration failed at t=" ++ Decimal.message refused.time ++ " s, dt=" ++
      Decimal.message refused.elapsed ++ " s: " ++ problem.text
  | .state problem => "State: " ++ problem.text
  | .file reason none => "IO: " ++ reason
  | .file reason (some access) =>
    "IO: " ++ access.operation ++ " '" ++ access.path ++ "': " ++ reason

/-- The text that a fault is reported by. A null character ends it, wherever in the fault that
character comes from; what the fault carries beside its text is not cut. -/
def message (f : Fault) : String := Text.beforeNull ("[archimedes] " ++ f.detail)

end Fault
end Flotation
