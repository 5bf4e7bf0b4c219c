import Flotation.Proofs.Scene.Course
import Flotation.Proofs.Setup.Building
import Flotation.Simulator.Run

/-! The motion of a simulator and what is to be logged of it, told from its scene and its time alone. Nothing
here knows of a log or of anyone who reads it. -/
namespace Flotation
variable {α : Type} [Scalar α]

/-- A scene at a time. -/
structure Motion (α : Type) [Scalar α] where
  scene : Scene α
  time : α

def Simulator.motion (s : Simulator α) : Motion α := ⟨s.scene, s.time⟩

/-- Why a tick of a length cannot be taken. -/
def tickProblem? (elapsed : α) : Option TickProblem :=
  if ¬ Scalar.isFinite elapsed then some .notFinite
  else if elapsed < 0.0 then some .negative
  else none

theorem tickProblem?_eq_none {elapsed : α} :
    tickProblem? elapsed = none ↔ ¬ (¬ Scalar.isFinite elapsed ∨ elapsed < 0.0) := by
  by_cases hf : Scalar.isFinite elapsed = true
  · by_cases hn : elapsed < 0.0
    · simp [tickProblem?, hf, hn]
    · simp [tickProblem?, hf, hn]
  · simp [tickProblem?, hf]

theorem Scalar.float_le_of_lt {x y : Float} (h : x < y) : x ≤ y := by
  have hm : x.toModel < y.toModel := of_decide_eq_true h
  have hc : x.toModel.unpack.compare y.toModel.unpack = some .lt := beq_iff_eq.mp hm
  have hle : x.toModel ≤ y.toModel := by
    change Option.any _ (x.toModel.unpack.compare y.toModel.unpack) = true
    rw [hc]
    rfl
  exact decide_eq_true hle

/-- A simulator that can be built takes ticks of its own length. -/
theorem tickProblem?_of_build {setup : SimulatorSetup Float} {scene : Scene Float}
    (h : setup.build = .ok scene) : tickProblem? setup.tickLength = none := by
  obtain ⟨-, ⟨hfinite, hpositive⟩, -, -⟩ :=
    SimulatorSetup.issues_eq_nil.mp (SimulatorSetup.build_eq_ok h).1
  apply tickProblem?_eq_none.mpr
  rintro (hn | hn)
  · exact hn hfinite
  · exact hpositive (Scalar.float_le_of_lt hn)

namespace Motion

/-- Whether the sphere touches the water. -/
def submerged (m : Motion α) : Bool := decide ((0.0 : α) < m.scene.sphere.submersion)

def ticked (m : Motion α) (elapsed : α) : Motion α := ⟨m.scene.advance elapsed, m.time + elapsed⟩

/-- A step of a length that cannot be taken leaves the motion as it is. -/
def stepped (m : Motion α) (elapsed : α) : Motion α :=
  match tickProblem? elapsed with
  | none => m.ticked elapsed
  | some _ => m

def waterText (submerged : Bool) : String :=
  if submerged then "Sphere entered the water" else "Sphere left the water"

/-- What is to be logged of the water when a tick leads from one motion to another: the surface is passed if
the sphere touches the water at one end of the tick only. -/
def crossing? (passage : Motion α × Motion α) : Option Entry :=
  if passage.2.submerged ≠ passage.1.submerged then
    some ⟨.event, Scalar.toFloat passage.2.time, waterText passage.2.submerged, Simulator.tickContext⟩
  else none

def heightEntry (m : Motion α) : Entry :=
  ⟨.debug, Scalar.toFloat m.time, "height=" ++ Decimal.fixed 6 (Scalar.toFloat m.scene.sphere.height),
    Simulator.tickContext⟩

/-- The entry of a step that is rejected under some context. -/
def rejection (context : Context) (problem : TickProblem) (elapsed : α) (m : Motion α) : Entry :=
  let time := Scalar.toFloat m.time
  let fault : Fault := .tick problem (some ⟨time, Scalar.toFloat elapsed⟩)
  ⟨fault.severity.level, time, fault.message, ⟨context.entity, Simulator.component⟩⟩

/-- What is to be logged of one step. -/
def stepEntries (context : Context) (m : Motion α) (elapsed : α) : List Entry :=
  match tickProblem? elapsed with
  | none => (crossing? (m, m.ticked elapsed)).toList ++ [(m.ticked elapsed).heightEntry]
  | some problem => [m.rejection context problem elapsed]

/-- What is to be logged of one step after the other. -/
def entries (context : Context) (m : Motion α) : List α → List Entry
  | [] => []
  | elapsed :: rest => m.stepEntries context elapsed ++ (m.stepped elapsed).entries context rest

/-- The motion before and after each of some ticks. -/
def passages (m : Motion α) : List α → List (Motion α × Motion α)
  | [] => []
  | elapsed :: rest => (m, m.ticked elapsed) :: (m.ticked elapsed).passages rest

/-- The lengths among some that can be taken. -/
def takable (lengths : List α) : List α := lengths.filter fun elapsed => (tickProblem? elapsed).isNone

theorem takable_cons (elapsed : α) (rest : List α) :
    takable (elapsed :: rest) =
      match tickProblem? elapsed with
      | none => elapsed :: takable rest
      | some _ => takable rest := by
  rw [takable, List.filter_cons]
  cases tickProblem? elapsed with
  | none => rfl
  | some problem => rfl

theorem foldl_stepped (m : Motion α) (lengths : List α) :
    lengths.foldl stepped m = (takable lengths).foldl ticked m := by
  induction lengths generalizing m with
  | nil => rfl
  | cons elapsed rest ih =>
    rw [List.foldl_cons, ih, stepped, takable_cons]
    cases tickProblem? elapsed with
    | none => rfl
    | some problem => rfl

end Motion
end Flotation
