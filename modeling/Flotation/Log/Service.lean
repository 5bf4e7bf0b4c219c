import Flotation.Log.Sink

/-! Log services: their sinks, the entries they hold and the ledger of those they have accepted. -/
namespace Flotation

/-- A log service. Entries below the threshold are dropped, and all others are accepted. While
the service is buffering, accepted entries are held and not delivered. The ledger has every
entry accepted since it was begun. Both lists have the latest entry first. -/
structure Service where
  slots : List Slot := []
  held : List Entry := []
  ledger : List Entry := []
  threshold : Level := .info
  buffering : Bool := false

namespace Service

/-- The entries held, in the order in which they were logged. -/
def pending (s : Service) : List Entry := s.held.reverse

def accepts (s : Service) (level : Level) : Bool := s.threshold ≤ level

/-- The number of entries in the ledger at exactly this level. -/
def count (s : Service) (level : Level) : Nat := s.ledger.countP (·.level = level)

def anyErrors (s : Service) : Bool := 0 < s.count .error + s.count .fatal

/-- Put a sink behind all others. -/
def attachSink (s : Service) (sink : Sink) (threshold : Level) : Service :=
  { s with slots := s.slots ++ [{ sink, threshold }] }

def detachSinks (s : Service) : Service := { s with slots := [] }

def setThreshold (s : Service) (threshold : Level) : Service := { s with threshold }

/-- Entries that are held stay so when buffering is turned off, until the next flush. -/
def buffer (s : Service) (buffering : Bool) : Service := { s with buffering }

/-- Drop the entries held without delivering them. -/
def dropHeld (s : Service) : Service := { s with held := [] }

/-- Start a new ledger. -/
def newLedger (s : Service) : Service := { s with ledger := [] }

/-- Enter an entry into the ledger. -/
def enter (s : Service) (entry : Entry) : Service := { s with ledger := entry :: s.ledger }

def hold (s : Service) (entry : Entry) : Service := { s with held := entry :: s.held }

@[simp] theorem pending_hold (s : Service) (entry : Entry) :
    (s.hold entry).pending = s.pending ++ [entry] := by
  simp [pending, hold]

@[simp] theorem pending_dropHeld (s : Service) : s.dropHeld.pending = [] := rfl

@[simp] theorem count_enter (s : Service) (entry : Entry) (level : Level) :
    (s.enter entry).count level = s.count level + if entry.level = level then 1 else 0 := by
  simp [count, enter, List.countP_cons]

@[simp] theorem count_newLedger (s : Service) (level : Level) :
    s.newLedger.count level = 0 := rfl

end Service
end Flotation
