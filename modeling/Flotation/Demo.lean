import Flotation.Simulator.Control
import Flotation.Simulator.Run
import Flotation.Table

/-! A demonstration: one simulator is run to its end time, with a line of a table every half
second and the results below it. -/
namespace Flotation.Demo

/-- What the demonstration leaves behind. One whose time stands still before the end goes on for
ever: it has written this much, and its exit code means nothing. -/
structure Transcript where
  exitCode : Nat
  standard : String
  errors : String
  endless : Bool := false
  deriving DecidableEq, Repr

/-- The setup file that is looked for unless another is named. -/
def usualFile : String := "config/floating_sphere.yaml"

/-- A path is shown up to its first null character, where it ends. -/
def missingText (path : String) : String :=
  "Config not found: " ++ Text.beforeNull path ++ " (using built-in defaults)\n"

def loadingText (path : String) : String := "Loading: " ++ Text.beforeNull path ++ "\n"

def say (text : String) : Action (Rig Float) Unit :=
  Rig.atStation (Station.onOutlets (·.say text))

def labels : List String := ["Time [s]", "z [m]", "v [m/s]", "ratio"]

def ruleLine : String := Table.divider (labels.length * Table.columnWidth.toNat) '-' ++ "\n"

def rowLine (s : Simulator Float) : String :=
  let ratio := (s.latest.map (·.ratio)).getD 0.0
  Table.row Table.columnWidth Table.places [s.time, s.height, s.velocity, ratio] ++ "\n"

/-- The number of ticks from one line of the table to the next, at least one. It is rounded to a
signed count of 64 bits. For what does not fit the rounding is undefined, and one is the choice of
the platform. -/
def spacing (tickLength : Float) : Nat :=
  let ticks := (Binary64.ofFloat (0.5 / tickLength)).nearest
  if ticks < 1 <<< 63 then max 1 ticks else 1

/-- Half a tick before the end no further one is taken. -/
def unfinished (s : Simulator Float) : Bool :=
  decide (s.time + 0.5 * s.setup.tickLength < s.setup.finish)

/-- Tick to the end, at most a given number of times, and tell whether the end has been reached. -/
def ticking : Nat → Action (Rig Float) Bool
  | 0 => return false
  | n + 1 => do
    if unfinished (← .read Rig.simulator) then
      Rig.stepNominal
      let s ← .read Rig.simulator
      if s.ticks % spacing s.setup.tickLength = 0 then say (rowLine s)
      ticking n
    else return true

/-- There are no more doubles than this. A time that grows with every tick has passed any end by
then, and one that has once stood still goes on standing still. -/
def patience : Nat := 1 <<< 64

def lowest (heights : List Float) : Float :=
  heights.foldl (fun low h => if h < low then h else low) (1.0 / 0.0)

def highest (heights : List Float) : Float :=
  heights.foldl (fun high h => if high < h then h else high) (-1.0 / 0.0)

def resultText (s : Simulator Float) : String :=
  let number := Decimal.fixed 4
  let heights := (s.observers.flatMap (·.seen)).reverse
  let floating := match s.scene.floatingHeight? with
    | some height => "  Floating height (analytic): " ++ number height ++ " m\n"
    | none => "  Sphere is denser than the water and sinks\n"
  "Final Results:\n" ++
    "  Ticks:    " ++ toString s.ticks ++ "\n" ++
    "  Time:     " ++ number s.time ++ " s\n" ++
    "  Height:   " ++ number s.height ++ " m\n" ++
    "  Velocity: " ++ number s.velocity ++ " m/s\n" ++
    "  Range:    [" ++ number (lowest heights) ++ ", " ++ number (highest heights) ++ "] m\n" ++
    floating

/-- Run a new simulator and print its table, and at the end what it has come to. Tells whether
the end has been reached. -/
def presentation : Action (Rig Float) Bool := do
  Rig.addObserver (some .silent)
  say ("\n" ++ Table.heading Table.columnWidth labels ++ "\n" ++ ruleLine)
  let ended ← ticking patience
  if ended then
    say (ruleLine ++ "\n")
    say (resultText (← .read Rig.simulator))
  return ended

/-- The whole demonstration, of a setup or of the fault that there is in its place. The simulator
is taken down at the end, whatever happened. -/
def script (greeting : String) (setup : Except Fault (SimulatorSetup Float)) :
    Action Station Bool := do
  Station.onOutlets (·.say greeting)
  let setup ← .ofExcept setup
  let simulator ← Simulator.create setup
  let body := presentation.onPart (fun st => ⟨simulator, st⟩) fun rig _ => rig.station
  body.closing simulator.destroy

/-- The transcript of a script among some files. -/
def transcript (script : Action Station Bool) (directory : Directory) : Transcript :=
  match script.run { outlets := { directory } } with
  | (.returned ended, st) => ⟨0, st.outlets.standard, "", !ended⟩
  | (.raised (.fault fault), st) =>
    ⟨1, st.outlets.standard, "Error: " ++ fault.message ++ "\n", false⟩
  | (.raised (.sink reason), st) => ⟨1, st.outlets.standard, "Error: " ++ reason ++ "\n", false⟩
  | (.aborted, st) => ⟨134, st.outlets.standard, "", false⟩

/-- The transcript of the standard scene when there is no file at a path. -/
def withoutFile (path : String) : Transcript :=
  transcript (script (missingText path) (.ok .standard)) {}

/-- The transcript when there is a file at a path for a loader to read. Only then may a log file be
asked for. -/
def withFile (loader : SetupLoader) (path : String) (directory : Directory := {}) : Transcript :=
  transcript (script (loadingText path) (loader path)) directory

end Flotation.Demo
