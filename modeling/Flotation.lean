import Flotation.Table
import Flotation.Single
import Flotation.Release
import Flotation.Console
import Flotation.Setup.Simulator
import Flotation.Scene.Trial
import Flotation.Log.Station
import Flotation.Simulator.Run
import Flotation.Simulator.Control
import Flotation.Session.Report
import Flotation.Main
import Flotation.Proofs.Conduct
import Flotation.Proofs.Log.Delivery
import Flotation.Proofs.Log.Accounts
import Flotation.Proofs.Session.Course
import Flotation.Proofs.Session.ScopedLogging
import Flotation.Proofs.Log.Frames
import Flotation.Proofs.Simulator.Commitment
import Flotation.Proofs.Simulator.RunRefinement
import Flotation.Proofs.Log.Posts
import Flotation.Proofs.Session.FailingSinks
import Flotation.Proofs.Session.NestedScopes
import Flotation.Proofs.Scene.Exact
import Flotation.Proofs.Scene.Floating
import Flotation.Proofs.Scene.Bobbing
import Flotation.Proofs.Simulator.Chronicle
import Flotation.Proofs.Simulator.Books
import Flotation.Proofs.Session.Registration
import Flotation.Proofs.Session.Handover
import Flotation.Proofs.Concord
import Flotation.Proofs.Simulator.Likeness
import Flotation.Proofs.Session.Moves
import Flotation.Proofs.Session.Replay
import Flotation.Proofs.Log.Diary
import Flotation.Proofs.Simulator.Motion
import Flotation.Proofs.Simulator.Telling
import Flotation.Proofs.Simulator.WaterEvents
import Flotation.Proofs.Simulator.Transcript
import Flotation.Proofs.Session.Outputs
import Flotation.Proofs.Scene.Reduction
import Flotation.Proofs.Session.Refusals
import Flotation.Proofs.Simulator.Twins
import Flotation.Proofs.Simulator.Rejection
import Flotation.Proofs.Simulator.Restart
import Flotation.Proofs.Simulator.Completion
import Flotation.Proofs.Unawareness
import Flotation.Proofs.Session.Relics
import Flotation.Proofs.Session.Wiring
import Flotation.Proofs.Session.QuietRequests
import Flotation.Proofs.Session.Consoles
import Flotation.Proofs.Setup.Validation
import Flotation.Proofs.Simulator.Snapshots
import Flotation.Proofs.Log.Acts
import Flotation.Proofs.Simulator.LogActs
import Flotation.Proofs.Session.LogActs
import Flotation.Proofs.Session.Counting
import Flotation.Proofs.Session.Reticence
import Flotation.Proofs.Scene.Units
import Flotation.Proofs.Scene.Sinking
import Flotation.Proofs.Scene.Standstill
import Flotation.Proofs.Simulator.Constants
import Flotation.Proofs.Session.Constants
import Flotation.Proofs.Log.Provenance
import Flotation.Proofs.Session.Contexts
import Flotation.Proofs.Session.Programs
import Flotation.Proofs.Scene.Ramp
import Flotation.Proofs.Session.Interruptions
import Flotation.Proofs.Session.Overtaking
import Flotation.Proofs.Session.ScopeExits
import Flotation.Proofs.Rounding.Mantissas
import Flotation.Proofs.Rounding.Grids
import Flotation.Proofs.Rounding.Operations
import Flotation.Proofs.Rounding.Packing
import Flotation.Proofs.Rounding.Doubles
import Flotation.Proofs.Rounding.Steps
import Flotation.Proofs.Rounding.Strides
import Flotation.Proofs.Setup.Narrowing
import Flotation.Proofs.Simulator.TickCount
import Flotation.Proofs.Simulator.Pace
import Flotation.Proofs.Simulator.Progress
import Flotation.Proofs.Session.RunExits
import Flotation.Proofs.Scene.Reversal
import Flotation.Proofs.Scene.Parabolas
import Flotation.Proofs.Notation
import Flotation.Proofs.Log.Renderings
import Flotation.Proofs.Log.Reports
import Flotation.Proofs.Bytes
import Flotation.Proofs.Columns
import Flotation.Proofs.Joining
