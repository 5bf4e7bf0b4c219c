import Flotation.Setup.Scene
import Flotation.Log.Settings

/-! The setup of a simulator: its scene, its time span and its log. -/
namespace Flotation

/-- Times are in seconds. The source file is empty unless the setup was read from one. -/
structure SimulatorSetup (β : Type) where
  name : String
  description : String
  sourceFile : String
  start : β
  finish : β
  tickLength : β
  scene : SceneSetup β
  logging : LogSettings

namespace SimulatorSetup
variable {β : Type} [Scalar β]

/-- Ten seconds of the standard scene in ticks of a hundredth. -/
def standard : SimulatorSetup β where
  name := "floating_sphere"
  description := ""
  sourceFile := ""
  start := 0.0
  finish := 10.0
  tickLength := 0.01
  scene := .standard
  logging := .standard

/-- Both times have to be finite before their order is looked at. -/
def timeIssues (c : SimulatorSetup β) : List Issue :=
  if Scalar.isFinite c.start && Scalar.isFinite c.finish then
    Issue.require (!decide (c.finish < c.start)) .endBeforeStart
  else [.timesNotFinite]

def issues (c : SimulatorSetup β) : List Issue :=
  c.scene.issues ++
    Issue.require (decide (Scalar.IsPositive c.tickLength)) .tickLengthNotPositive ++
    c.timeIssues ++
    Issue.require (!(c.logging.fileEnabled && c.logging.filePath.isEmpty)) .logFileUnnamed

/-- The scene of a setup without issues. Issues are reported with the source file; a
constant that is refused only when the scene is made is not. -/
def build (c : SimulatorSetup β) : Except Fault (Scene β) :=
  if c.issues.isEmpty then c.scene.build id
  else .error (.setup (.issues c.issues) { file := c.sourceFile })

end SimulatorSetup

/-- What reads setup files: the setup in the file at a path, or the fault that keeps it from being read. -/
abbrev SetupLoader := String → Except Fault (SimulatorSetup Float)

/-- Where there are no setup files, none can be read. -/
def SetupLoader.unavailable : SetupLoader := fun path => .error (.unreadableSetup path)

end Flotation
