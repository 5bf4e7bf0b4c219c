import Flotation.Simulator.Rig

/-! Control of a simulator between ticks: observers, snapshots, its time, and a fresh start. -/
namespace Flotation.Rig
variable {α : Type} [Scalar α]

/-- Add an observer behind all others. There has to be one. -/
def addObserver : Option (HeightSink α) → Action (Rig α) Unit
  | none => .raise (.fault (.setup .sinkNotCallable {}))
  | some sink => onSimulator fun s => { s with observers := s.observers ++ [sink] }

def clearObservers : Action (Rig α) Unit := onSimulator fun s => { s with observers := [] }

/-- Put the simulator into a scene whose motion and gravity are finite. The latest tick is
forgotten; the time and the count of ticks stay. -/
def adoptScene (scene : Scene α) : Action (Rig α) Unit :=
  if !(Scalar.isFinite scene.sphere.height && Scalar.isFinite scene.sphere.velocity) then
    .raise (.fault (.state .motionNotFinite))
  else if !Scalar.isFinite scene.gravity then .raise (.fault (.state .gravityNotFinite))
  else onSimulator fun s => { s with scene, latest := none }

def adoptTime (time : α) : Action (Rig α) Unit :=
  if Scalar.isFinite time then onSimulator fun s => { s with time }
  else .raise (.fault (.state .timeNotFinite))

/-- Go back to the scene and the start time of the setup. -/
def reset : Action (Rig α) Unit := do
  let s ← .read Rig.simulator
  let scene ← .ofExcept s.setup.build
  onSimulator fun s => { s with scene, time := s.setup.start, ticks := 0, latest := none }
  log .info "Simulator reset"

end Flotation.Rig
