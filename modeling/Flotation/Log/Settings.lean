import Flotation.Log.Level

/-! Where a simulator sends its log and how much of it. -/
namespace Flotation

structure LogSettings where
  consoleLevel : Level := .info
  fileEnabled : Bool := false
  filePath : String := ""
  fileLevel : Level := .debug
  quiet : Bool := false
  deriving DecidableEq, Repr

namespace LogSettings

def standard : LogSettings := {}

/-- Only errors on the console. -/
def hushed : LogSettings := { consoleLevel := .error, quiet := true }

/-- Everything on every output. -/
def verbose : LogSettings := { consoleLevel := .trace, fileLevel := .trace }

/-- The least grave level that some enabled output accepts. The file counts only if it is
enabled, and the quiet flag does not count. -/
def lowestLevel (s : LogSettings) : Level :=
  if s.fileEnabled && s.fileLevel < s.consoleLevel then s.fileLevel else s.consoleLevel

end LogSettings
end Flotation
