import Flotation.Log.Level

/-! How bad a fault is, and the level at which one is logged. -/
namespace Flotation

/-- An error means that the operation was rejected and the state kept; a fatal fault means that
the state cannot be trusted. -/
inductive Severity where
  | info
  | warning
  | error
  | fatal
  deriving DecidableEq, Repr

/-- The level of the log entry that reports a fault. -/
def Severity.level : Severity → Level
  | .info => .info
  | .warning => .warning
  | .error => .error
  | .fatal => .fatal

end Flotation
