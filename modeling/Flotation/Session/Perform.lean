import Flotation.Session.Basic
import Flotation.Session.Command
import Flotation.Simulator.Run

/-! What each command does to a session, and what it answers. -/
namespace Flotation.Session

/-- An action on the simulator of a name; without one nothing happens. -/
def atSimulator (name : String) (x : Action (Rig Float) Answer) : Action Session Answer := do
  match ← .read (·.simulators.get? name) with
  | none => return .nothing
  | some simulator =>
    x.onPart (fun s => ⟨simulator, s.station⟩) fun rig s =>
      { s with station := rig.station, simulators := s.simulators.put name rig.simulator }

/-- An action with nothing to answer. -/
def quietly {σ : Type} (x : Action σ Unit) : Action σ Answer := do
  x
  return .nothing

/-- Add a sink to the service at the station. -/
def attachSink (choice : SinkChoice) (threshold : Level) : Action Station Unit := do
  let sink ← match choice with
    | .console name => pure (Sink.into (.console (.named name)))
    | .file path => do
      Station.openLog path
      pure (Sink.into (.file path))
    | .nowhere => pure (Sink.into .nowhere)
    | .entries tag => pure (Sink.into (.entries tag))
    | .batches tag => pure (Sink.into (.batches tag))
    | .failing refused tag => pure (Sink.failing refused (.batches tag))
  Station.onService (·.attachSink sink threshold)

def openScope (name : String) : Action Session Unit := do
  let before ← atService name Station.openScope
  .update fun s => { s with scopes := (name, before) :: s.scopes }

/-- Close the scope opened last. What cannot be delivered then aborts the program. -/
def closeScope : Action Session Unit := do
  match ← .read Session.scopes with
  | [] => return
  | (name, before) :: scopes =>
    .update fun s => { s with scopes }
    Action.closing (pure ()) (atService name (Station.closeScope before))

def pushContext (context : Context) : Action Session Unit := do
  let before ← atStation (Station.enter context)
  .update fun s => { s with contexts := before :: s.contexts }

def popContext : Action Session Unit := do
  match ← .read Session.contexts with
  | [] => return
  | before :: contexts =>
    .update fun s => { s with contexts }
    atStation (Station.leave before)

/-- The settings of a console. -/
def console? (s : Session) (name : String) : Option Console :=
  (s.station.outlets.console? (.named name)).map (·.console)

/-- A text that depends on the settings of a console. -/
def withConsole (name : String) (text : Console → String) : Action Session Answer :=
  .read fun s => .text (text ((s.console? name).getD {}))

def configure (name : String) (f : Console → Console) : Action Session Unit :=
  atStation (Station.onOutlets (·.configure (.named name) f))

def print (name : String) (text : Console → String) : Action Session Unit :=
  atStation (Station.onOutlets (·.print (.named name) text))

/-- Make a simulator under a name. If the name is taken, the old simulator is taken down after
the new one has been made. -/
def newSimulator (name : String) (blueprint : Blueprint) : Action Session Unit := do
  let setup ← .ofExcept blueprint.read
  let simulator ← atStation (Simulator.create setup)
  let old ← .read (·.simulators.get? name)
  .update fun s => { s with simulators := s.simulators.put name simulator }
  match old with
  | none => pure ()
  | some old => atStation old.destroy

def destroy (name : String) : Action Session Unit := do
  match ← .read (·.simulators.get? name) with
  | none => return
  | some old =>
    .update fun s => { s with simulators := s.simulators.erase name }
    atStation old.destroy

/-- The scene with some of its parts changed. The sphere is checked first. -/
def changed (scene : Scene Float) (c : SceneChange) : Except Fault (Scene Float) := do
  let old := scene.sphere
  let sphere ← Sphere.make (c.radius.getD old.radius) (c.mass.getD old.mass)
    (c.height.getD old.height) (c.velocity.getD old.velocity)
  let water ← Water.make (c.water.getD scene.water.density)
  return { sphere, water, gravity := c.gravity.getD scene.gravity }

def adoptScene (c : SceneChange) : Action (Rig Float) Unit := do
  let s ← .read Rig.simulator
  let scene ← .ofExcept (changed s.scene c)
  Rig.adoptScene scene

def save (simulator name : String) : Action Session Unit :=
  .update fun s =>
    match s.simulators.get? simulator with
    | none => s
    | some simulator => { s with snapshots := s.snapshots.put name simulator.scene }

def restore (simulator name : String) : Action Session Answer := do
  match ← .read (·.snapshots.get? name) with
  | none => return .nothing
  | some scene => atSimulator simulator (quietly (Rig.adoptScene scene))

/-- What a request does to a session. -/
def perform (r : Request) : Action Session Answer :=
  match r.command with
  | .log level time message none =>
    quietly (atService r.service (Station.log level time message))
  | .log level time message (some context) =>
    quietly (atService r.service (Station.logEntry ⟨level, time, message, context⟩))
  | .inspect => pure .nothing
  | .buffer buffering =>
    quietly (atService r.service (Station.onService (·.buffer buffering)))
  | .setThreshold level =>
    quietly (atService r.service (Station.onService (·.setThreshold level)))
  | .attachSink choice threshold => quietly (atService r.service (attachSink choice threshold))
  | .detachSinks => quietly (atService r.service (Station.onService (·.detachSinks)))
  | .flush => quietly (atService r.service Station.flush)
  | .dropHeld => quietly (atService r.service (Station.onService (·.dropHeld)))
  | .newLedger => quietly (atService r.service (Station.onService (·.newLedger)))
  | .showPending => .read fun s => .entries (s.service r.service).pending
  | .openScope => quietly (openScope r.service)
  | .closeScope => quietly closeScope
  | .pushContext context => do
    pushContext context
    .read fun s => .context s.station.context
  | .popContext => do
    popContext
    .read fun s => .context s.station.context
  | .showContext => .read fun s => .context s.station.context
  | .report fault time component => quietly (atStation (Station.report fault time component))
  | .reject fault time component => quietly (atStation (Station.reject fault time component))
  | .newConsole name standard => do
    atStation (Station.onOutlets (·.addConsole (.named name) ⟨{}, standard, ""⟩))
    return .terminal false
  | .setColours name colours => quietly (configure name fun c => { c with colours })
  | .setConsoleLevel name level => quietly (configure name fun c => { c with level })
  | .consoleLog name level message =>
    quietly (print name fun c => ((c.line? level message).map (· ++ "\n")).getD "")
  | .consoleLine name text => quietly (print name fun _ => text ++ "\n")
  | .paint name colour text => withConsole name fun c => c.paint colour text
  | .render name entry => withConsole name fun c => entry.render c
  | .newSimulator blueprint => quietly (newSimulator r.simulator blueprint)
  | .destroy => quietly (destroy r.simulator)
  | .describe => atSimulator r.simulator (.read fun rig => .simulator rig.simulator)
  | .step none times => atSimulator r.simulator (quietly (Action.times Rig.stepNominal times))
  | .step (some elapsed) times =>
    atSimulator r.simulator (quietly (Action.times (Rig.step elapsed) times))
  | .run => atSimulator r.simulator do
    let ticks ← Rig.run
    return .ticks ticks
  | .reset => atSimulator r.simulator (quietly Rig.reset)
  | .adoptTime time => atSimulator r.simulator (quietly (Rig.adoptTime time))
  | .save name => quietly (save r.simulator name)
  | .restore name => restore r.simulator name
  | .adoptScene change => atSimulator r.simulator (quietly (adoptScene change))
  | .addObserver observer => atSimulator r.simulator (quietly (Rig.addObserver observer))
  | .clearObservers => atSimulator r.simulator (quietly Rig.clearObservers)
  | .placeFile path contents =>
    quietly (atStation (Station.onOutlets fun o =>
      { o with directory := o.directory.write path contents }))
  | .showFile path =>
    .read fun s => .contents (s.station.outlets.directory.contents? path)

end Flotation.Session
