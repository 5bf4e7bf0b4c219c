import Flotation.Simulator.Basic

/-! Rigs: a simulator at its station, and what one tick does to both. -/
namespace Flotation

/-- A simulator and the station that it logs at. -/
structure Rig (α : Type) [Scalar α] where
  simulator : Simulator α
  station : Station

namespace Rig
variable {α : Type} [Scalar α] {β : Type}

/-- An action on the station alone. -/
def atStation : Action Station β → Action (Rig α) β :=
  .onPart Rig.station fun station rig => { rig with station }

/-- Change the simulator alone. -/
def onSimulator (f : Simulator α → Simulator α) : Action (Rig α) Unit :=
  .update fun rig => { rig with simulator := f rig.simulator }

/-- Log a message at the time of the simulator. -/
def log (level : Level) (message : String) : Action (Rig α) Unit := do
  let s ← .read Rig.simulator
  atStation (Station.log level (Scalar.toFloat s.time) message)

/-- Run a body under a context. -/
def within (context : Context) (body : Action (Rig α) Unit) : Action (Rig α) Unit := do
  let before ← atStation (Station.enter context)
  body.closing (atStation (Station.leave before))

/-- Run a body while the log is buffered. -/
def buffered (body : Action (Rig α) Unit) : Action (Rig α) Unit := do
  let before ← atStation Station.openScope
  body.closing (atStation (Station.closeScope before))

/-- Log and raise the fault of a tick that cannot be taken. -/
def reject (problem : TickProblem) (elapsed : α) : Action (Rig α) Unit := do
  let s ← .read Rig.simulator
  let time := Scalar.toFloat s.time
  let fault : Fault := .tick problem (some ⟨time, Scalar.toFloat elapsed⟩)
  atStation (Station.reject fault time Simulator.component)

/-- Take a tick: the scene, the time, the count and the record of the latest tick go on
together. -/
def commit (elapsed : α) (tick : Tick α) : Action (Rig α) Unit :=
  onSimulator fun s =>
    { s with
      scene := s.scene.after tick
      time := s.time + elapsed
      ticks := s.ticks + 1
      latest := some tick }

/-- Log that the sphere has entered or left the water, if the tick did that. -/
def announce (tick : Tick α) : Action (Rig α) Unit := do
  let s ← .read Rig.simulator
  if s.submerged ≠ tick.submerged then
    log .event (if s.submerged then "Sphere entered the water" else "Sphere left the water")

/-- Log a height at the level for debugging. -/
def logHeight (height : α) : Action (Rig α) Unit := do
  let st ← .read Rig.station
  if st.service.accepts .debug then
    log .debug ("height=" ++ Decimal.fixed 6 (Scalar.toFloat height))

/-- How a height fared with the observers: the complaint of the one that refused it, if any,
and what it left. -/
structure Observation (α : Type) where
  complaint : Option String
  observers : List (HeightSink α)
  outlets : Outlets

/-- Hand a height to observers in order, until one refuses it. -/
def observe (height : α) : List (HeightSink α) → Outlets → Observation α
  | [], outlets => ⟨none, [], outlets⟩
  | sink :: rest, outlets =>
    let sink := sink.handed height
    match sink.complaint with
    | some reason => ⟨some reason, sink :: rest, outlets⟩
    | none =>
      let later := observe height rest (outlets.noteHeight sink.tag (Scalar.toFloat height))
      { later with observers := sink :: later.observers }

/-- The rig after an observation. -/
def observed (rig : Rig α) (o : Observation α) : Rig α :=
  ⟨{ rig.simulator with observers := o.observers }, { rig.station with outlets := o.outlets }⟩

/-- Hand a height to the observers of the simulator. -/
def emit (height : α) : Action (Rig α) Unit := ⟨fun rig =>
  let o := observe height rig.simulator.observers rig.station.outlets
  match o.complaint with
  | some reason => (.raised (.sink reason), rig.observed o)
  | none => (.returned (), rig.observed o)⟩

/-- Commit the tick of the given length, then let the log and the observers know. -/
def take (elapsed : α) : Action (Rig α) Unit := do
  let s ← .read Rig.simulator
  let tick := s.scene.tick elapsed
  commit elapsed tick
  announce tick
  logHeight tick.height
  emit tick.height

/-- Take one tick of the given length, or reject it. -/
def step (elapsed : α) : Action (Rig α) Unit :=
  if ¬ Scalar.isFinite elapsed then reject .notFinite elapsed
  else if elapsed < 0.0 then reject .negative elapsed
  else within Simulator.tickContext (take elapsed)

/-- Take one tick of the length in the setup. -/
def stepNominal : Action (Rig α) Unit := do
  let s ← .read Rig.simulator
  step s.setup.tickLength

end Rig
end Flotation
