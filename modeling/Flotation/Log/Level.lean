/-! Log levels, from the most talkative to the gravest. -/
namespace Flotation

inductive Level where
  | trace
  | debug
  | info
  | event
  | warning
  | error
  | fatal
  deriving DecidableEq, Repr

namespace Level

def all : List Level := [.trace, .debug, .info, .event, .warning, .error, .fatal]

def rank : Level → Nat
  | .trace => 0
  | .debug => 1
  | .info => 2
  | .event => 3
  | .warning => 4
  | .error => 5
  | .fatal => 6

theorem rank_inj {a b : Level} : a.rank = b.rank ↔ a = b := by
  cases a <;> cases b <;> decide

/-- A level is below another if it is less grave. -/
instance : LE Level := ⟨fun a b => a.rank ≤ b.rank⟩
instance : LT Level := ⟨fun a b => a.rank < b.rank⟩
instance (a b : Level) : Decidable (a ≤ b) := inferInstanceAs (Decidable (a.rank ≤ b.rank))
instance (a b : Level) : Decidable (a < b) := inferInstanceAs (Decidable (a.rank < b.rank))

theorem le_def {a b : Level} : a ≤ b ↔ a.rank ≤ b.rank := Iff.rfl
theorem lt_def {a b : Level} : a < b ↔ a.rank < b.rank := Iff.rfl

/-- The three letters shown in a log line. -/
def letters : Level → String
  | .trace => "TRC"
  | .debug => "DBG"
  | .info => "INF"
  | .event => "EVT"
  | .warning => "WRN"
  | .error => "ERR"
  | .fatal => "FTL"

def name : Level → String
  | .trace => "Trace"
  | .debug => "Debug"
  | .info => "Info"
  | .event => "Event"
  | .warning => "Warning"
  | .error => "Error"
  | .fatal => "Fatal"

/-- Read a level by its capitalised or lower-case name. The gravest level goes by the name of
`Off`, since hardly anything passes it, and not by its own. -/
def ofName? : String → Option Level
  | "Trace" | "trace" => some .trace
  | "Debug" | "debug" => some .debug
  | "Info" | "info" => some .info
  | "Event" | "event" => some .event
  | "Warning" | "warning" => some .warning
  | "Error" | "error" => some .error
  | "Off" | "off" => some .fatal
  | _ => none

end Level
end Flotation
