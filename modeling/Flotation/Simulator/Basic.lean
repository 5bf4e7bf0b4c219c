import Flotation.Setup.Simulator
import Flotation.Log.Station
import Flotation.Scene.HeightSink

/-! Simulators: a scene that is advanced tick by tick, with its time and its book-keeping. Making
one takes the log service over, and taking it down strips the service of every sink. -/
namespace Flotation

/-- The observers are handed the height after each tick. The serial number is that of the
simulator's console. -/
structure Simulator (α : Type) [Scalar α] where
  setup : SimulatorSetup α
  scene : Scene α
  time : α
  ticks : Nat
  observers : List (HeightSink α)
  latest : Option (Tick α)
  serial : Nat

namespace Simulator
variable {α : Type} [Scalar α]

/-- The context of entries that are logged during a tick. -/
def tickContext : Context := ⟨"sphere", "buoyancy"⟩

/-- What rejected ticks are attributed to. -/
def component : String := "Simulator"

def height (s : Simulator α) : α := s.scene.sphere.height

def velocity (s : Simulator α) : α := s.scene.sphere.velocity

/-- Whether the sphere touches the water now. -/
def submerged (s : Simulator α) : Bool := decide ((0.0 : α) < s.scene.sphere.submersion)

/-- What a new simulator says of itself. -/
def readyText (name : String) (scene : Scene α) : String :=
  let number (x : α) : String := Decimal.message (Scalar.toFloat x)
  "Simulator '" ++ name ++ "' ready: radius=" ++ number scene.sphere.radius ++
    " m, mass=" ++ number scene.sphere.mass ++ " kg, water=" ++ number scene.water.density ++
    " kg/m^3, g=" ++ number scene.gravity ++ " m/s^2"

/-- The console of the simulator with a serial number. -/
def consoleId (serial : Nat) : ConsoleId := .simulator serial

/-- A service with the sinks of the settings and none but those, and a new ledger. Entries that
are held stay held. -/
def served (settings : LogSettings) (console : ConsoleId) (service : Service) : Service :=
  let bare := (service.detachSinks.newLedger).setThreshold settings.lowestLevel
  let onConsole := bare.attachSink (.into (.console console)) settings.consoleLevel
  if settings.fileEnabled then
    onConsole.attachSink (.into (.file settings.filePath)) settings.fileLevel
  else onConsole

/-- Put up a new console and replace the sinks of the service by those of the settings. The
file is opened first, so that one that cannot be opened leaves the service alone. Gives back
the serial number of the console. -/
def takeOver (settings : LogSettings) : Action Station Nat := do
  if settings.fileEnabled then Station.openLog settings.filePath
  let serial ← .read Station.serials
  let console := consoleId serial
  .update fun st => { st with serials := serial + 1 }
  Station.onOutlets (·.addConsole console ⟨{ level := settings.consoleLevel }, true, ""⟩)
  Station.onService (served settings console)
  return serial

/-- Make a simulator and announce it. The scene comes before the log, so that a setup that is
refused changes nothing. -/
def create (setup : SimulatorSetup α) : Action Station (Simulator α) := do
  let scene ← .ofExcept setup.build
  let serial ← takeOver setup.logging
  Station.log .info (Scalar.toFloat setup.start) (readyText setup.name scene)
  return ⟨setup, scene, setup.start, 0, [], none, serial⟩

/-- Deliver what the service holds, and strip it of its sinks before the console goes. A sink
that refuses at this point aborts the program. -/
def destroy (s : Simulator α) : Action Station Unit :=
  Action.closing (pure ()) do
    Station.flush
    Station.onService (·.detachSinks)
    Station.onOutlets (·.removeConsole (consoleId s.serial))

end Simulator
end Flotation
