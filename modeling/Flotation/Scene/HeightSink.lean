/-! Consumers of the heights that a sphere reaches, one after each tick. -/
namespace Flotation

/-- A consumer of heights. It may record them under a tag. It may also refuse the latest of the
heights it was handed, for a reason that depends on all of them. -/
structure HeightSink (α : Type) where
  tag : Option String
  /-- The reason to refuse, given the heights handed over so far, the latest first. -/
  refusal : List α → Option String
  /-- The heights handed over so far, the latest first; a refused one is among them. -/
  seen : List α

namespace HeightSink
variable {α : Type}

/-- Record every height under a tag. -/
def recording (tag : String) : HeightSink α := ⟨some tag, fun _ => none, []⟩

/-- Take every height without a trace. -/
def silent : HeightSink α := ⟨none, fun _ => none, []⟩

/-- Accept a number of heights without a trace and refuse all later ones. -/
def failing (accepted : Nat) : HeightSink α :=
  ⟨none, fun seen => if accepted < seen.length then some "sink failed" else none, []⟩

/-- The sink after one more height. -/
def handed (s : HeightSink α) (height : α) : HeightSink α :=
  { s with seen := height :: s.seen }

/-- Why the sink refuses the latest height, if it does. -/
def complaint (s : HeightSink α) : Option String := s.refusal s.seen

end HeightSink
end Flotation
