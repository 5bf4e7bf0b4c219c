import Flotation.Log.Entry

/-! Log sinks: where a batch of entries goes, and which batches are refused. -/
namespace Flotation

/-- A console is one that the user named or one that belongs to a simulator, which goes by its
serial number. -/
inductive ConsoleId where
  | named (name : String)
  | simulator (serial : Nat)
  deriving DecidableEq, Repr

/-- Where accepted batches go: to a console or a file line by line, nowhere, or to the journal,
there entry by entry or as batches. -/
inductive Target where
  | console (id : ConsoleId)
  | file (path : String)
  | nowhere
  | entries (tag : String)
  | batches (tag : String)
  deriving DecidableEq, Repr

/-- A sink looks at all batches handed to it so far, the latest first, and either accepts the
latest or gives a reason to refuse it. -/
structure Sink where
  target : Target
  refusal : List (List Entry) → Option String

namespace Sink

/-- A sink that accepts every batch. -/
def into (target : Target) : Sink := ⟨target, fun _ => none⟩

/-- A sink that refuses a number of batches and accepts all later ones. -/
def failing (refused : Nat) (target : Target) : Sink :=
  ⟨target, fun received => if received.length ≤ refused then some "log sink failed" else none⟩

end Sink

/-- A sink in its place at a log service, with the least grave level it is given and all
batches it was handed, the latest first; a refused one is among them. -/
structure Slot where
  sink : Sink
  threshold : Level
  received : List (List Entry) := []

namespace Slot

/-- The entries of a batch that are grave enough for the sink. -/
def admitted (s : Slot) (batch : List Entry) : List Entry :=
  batch.filter (fun e => s.threshold ≤ e.level)

def handed (s : Slot) (batch : List Entry) : Slot := { s with received := batch :: s.received }

/-- Why the sink refuses the latest batch, if it does. -/
def complaint (s : Slot) : Option String := s.sink.refusal s.received

/-- All entries handed to the sink, in order. -/
def entries (s : Slot) : List Entry := s.received.reverse.flatten

@[simp] theorem entries_handed (s : Slot) (batch : List Entry) :
    (s.handed batch).entries = s.entries ++ batch := by
  simp [entries, handed]

end Slot
end Flotation
