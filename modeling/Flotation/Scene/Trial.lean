import Flotation.Scene.Basic
import Flotation.Scene.HeightSink

/-! Trials: a scene is changed, saved, restored and advanced move by move. -/
namespace Flotation

/-- A scene under trial and the snapshot to go back to. -/
structure Trial (α : Type) [Scalar α] where
  scene : Scene α
  saved : Scene α

namespace Trial

/-- A number of equal ticks, each of whose heights goes to the sink. -/
structure Ticks (α : Type) where
  elapsed : α
  times : Nat
  sink : Option (HeightSink α)

/-- One move: what is set comes first, then a snapshot is taken, then one is restored, and
ticks come last. -/
structure Move (α : Type) where
  height : Option α
  velocity : Option α
  gravity : Option α
  save : Bool
  restore : Bool
  ticks : Option (Ticks α)

/-- How a series of ticks ended: with the last of them if there was one, or with a refusal of
its sink. -/
structure TicksReport (α : Type) where
  logged : List α
  outcome : Except String (Option (Tick α))

structure MoveReport (α : Type) where
  height : α
  velocity : α
  ticks : Option (TicksReport α)

variable {α : Type} [Scalar α]

def start (scene : Scene α) : Trial α := ⟨scene, scene⟩

/-- Advance tick by tick; `last` is the tick before, if any. The scene has moved on before the
sink sees the height, and a refusal ends the series. -/
def advance (elapsed : α) : Nat → Scene α → Option (HeightSink α) → Option (Tick α) →
    Scene α × Option (HeightSink α) × Except String (Option (Tick α))
  | 0, scene, sink, last => (scene, sink, .ok last)
  | times + 1, scene, none, _ =>
    let tick := scene.tick elapsed
    advance elapsed times (scene.after tick) none (some tick)
  | times + 1, scene, some sink, _ =>
    let tick := scene.tick elapsed
    let sink := sink.handed tick.height
    match sink.complaint with
    | some reason => (scene.after tick, some sink, .error reason)
    | none => advance elapsed times (scene.after tick) (some sink) (some tick)

/-- The heights that a recording sink was handed, in order. -/
def logged (sink : Option (HeightSink α)) : List α :=
  match sink with
  | some { tag := some _, seen, .. } => seen.reverse
  | _ => []

/-- The scene after whatever a move sets. -/
def adjusted (scene : Scene α) (move : Move α) : Scene α where
  sphere := scene.sphere.moved (move.height.getD scene.sphere.height)
    (move.velocity.getD scene.sphere.velocity)
  water := scene.water
  gravity := move.gravity.getD scene.gravity

def perform (t : Trial α) (move : Move α) : Trial α × MoveReport α :=
  let scene := adjusted t.scene move
  let saved := if move.save then scene else t.saved
  let scene := if move.restore then saved else scene
  match move.ticks with
  | none => (⟨scene, saved⟩, ⟨scene.sphere.height, scene.sphere.velocity, none⟩)
  | some ticks =>
    let (scene, sink, outcome) := advance ticks.elapsed ticks.times scene ticks.sink none
    (⟨scene, saved⟩,
      ⟨scene.sphere.height, scene.sphere.velocity, some ⟨logged sink, outcome⟩⟩)

/-- Perform moves one after the other. -/
def run (t : Trial α) : List (Move α) → List (MoveReport α)
  | [] => []
  | move :: rest =>
    let (t, report) := t.perform move
    report :: t.run rest

end Trial
end Flotation
