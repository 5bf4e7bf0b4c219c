import Flotation.Simulator.Rig

/-! Runs: all ticks up to the end time, their log held and delivered at the end. -/
namespace Flotation
variable {α : Type} [Scalar α]

namespace Simulator

/-- Time left until the end. -/
def remaining (s : Simulator α) : α := s.setup.finish - s.time

/-- The number of ticks left, before its fraction is dropped. A little is added, so that a
whole number spoilt by rounding is not taken for the one below. -/
def tickQuotient (s : Simulator α) : α := s.remaining / s.setup.tickLength + 1e-9

/-- The ticks that a run takes. -/
def ticksLeft (s : Simulator α) : Nat := Scalar.toCount s.tickQuotient

/-- Whether there is any time left to run. -/
def hasTimeLeft (s : Simulator α) : Bool :=
  Scalar.isFinite s.remaining && !decide (s.remaining ≤ 0.0)

def runningText (ticks : Nat) (tickLength : α) : String :=
  "Running " ++ toString ticks ++ " ticks at dt=" ++
    Decimal.fixed 6 (Scalar.toFloat tickLength) ++ " s"

def completeText (s : Simulator α) : String :=
  "Run complete: height=" ++ Decimal.fixed 6 (Scalar.toFloat s.height) ++
    " m, velocity=" ++ Decimal.fixed 6 (Scalar.toFloat s.velocity) ++ " m/s"

end Simulator

/-- Tick to the end time and give back the number of ticks. Without time left nothing happens,
and nothing is logged. -/
def Rig.run : Action (Rig α) Nat := do
  let s ← .read Rig.simulator
  if s.hasTimeLeft then
    log .info (Simulator.runningText s.ticksLeft s.setup.tickLength)
    buffered (.times (step s.setup.tickLength) s.ticksLeft)
    let done ← .read Rig.simulator
    log .info done.completeText
    return s.ticksLeft
  else return 0

end Flotation
