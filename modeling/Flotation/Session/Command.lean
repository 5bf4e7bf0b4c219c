import Flotation.Simulator.Control

/-! The commands of a session, one for each thing that can be asked of services, consoles,
simulators and files. -/
namespace Flotation

/-- The sinks that a command can add to a log service. -/
inductive SinkChoice where
  | console (name : String)
  | file (path : String)
  | nowhere
  | entries (tag : String)
  | batches (tag : String)
  | failing (refused : Nat) (tag : String)

/-- What a new simulator is made from: a setup, or the file that a loader is to read it from. -/
inductive Blueprint where
  | setup (setup : SimulatorSetup Float)
  | file (path : String) (loader : SetupLoader := SetupLoader.unavailable)

/-- The setup of a blueprint, unless its file cannot be read. -/
def Blueprint.read : Blueprint → Except Fault (SimulatorSetup Float)
  | .setup given => .ok given
  | .file path loader => loader path

/-- The parts of a scene that are to change. -/
structure SceneChange where
  radius : Option Float
  mass : Option Float
  height : Option Float
  velocity : Option Float
  water : Option Float
  gravity : Option Float

/-- Without a context of its own an entry is logged under the current one. A simulator steps by
the tick of its setup unless a length is given. -/
inductive Command where
  | log (level : Level) (time : Float) (message : String) (context : Option Context)
  | inspect
  | buffer (buffering : Bool)
  | setThreshold (level : Level)
  | attachSink (choice : SinkChoice) (threshold : Level)
  | detachSinks
  | flush
  | dropHeld
  | newLedger
  | showPending
  | openScope
  | closeScope
  | pushContext (context : Context)
  | popContext
  | showContext
  | report (fault : Fault) (time : Float) (component : String)
  | reject (fault : Fault) (time : Float) (component : String)
  | newConsole (name : String) (standard : Bool)
  | setColours (name : String) (colours : Bool)
  | setConsoleLevel (name : String) (level : Level)
  | consoleLog (name : String) (level : Level) (message : String)
  | consoleLine (name : String) (text : String)
  | paint (name : String) (colour : Colour) (text : String)
  | render (name : String) (entry : Entry)
  | newSimulator (blueprint : Blueprint)
  | destroy
  | describe
  | step (elapsed : Option Float) (times : Nat)
  | run
  | reset
  | adoptTime (time : Float)
  | save (name : String)
  | restore (name : String)
  | adoptScene (change : SceneChange)
  | addObserver (observer : Option (HeightSink Float))
  | clearObservers
  | placeFile (path : String) (contents : String)
  | showFile (path : String)

/-- A command with the service and the simulator that it concerns, and the console whose
settings its report shows. -/
structure Request where
  service : String
  simulator : String
  console : Option String
  command : Command

/-- What a command itself answers. -/
inductive Answer where
  | nothing
  | entries (entries : List Entry)
  | context (context : Context)
  | terminal (interactive : Bool)
  | text (text : String)
  | contents (text : Option String)
  | simulator (simulator : Simulator Float)
  | ticks (ticks : Nat)

end Flotation
