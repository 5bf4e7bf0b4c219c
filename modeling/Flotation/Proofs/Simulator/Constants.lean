import Flotation.Proofs.Simulator.Chronicle
import Flotation.Proofs.Setup.Building

/-! The constants of a scene: its sphere's radius and mass, the density of the water, and gravity. Ticks use them
and leave them alone, and so does whatever else is not for setting them. -/
namespace Flotation
open Flotation.Action

/-- A double that is finite and not below zero or at it is above zero. -/
theorem Scalar.pos_of_isPositive {x : Float} (h : Scalar.IsPositive x) : 0.0 < x := by
  obtain ⟨hf, hn⟩ := h
  have hz : (0.0 : Float).toModel.unpack = .zero .positive := rfl
  have hf : x.toModel.unpack.isFinite = true := hf
  have hn : ¬ x.toModel.unpack.le (0.0 : Float).toModel.unpack = true := fun h =>
    hn (decide_eq_true h)
  suffices hp : (0.0 : Float).toModel.unpack.lt x.toModel.unpack = true from decide_eq_true hp
  rw [hz] at hn ⊢
  generalize x.toModel.unpack = unpacked at hf hn ⊢
  cases unpacked with
  | infinity => cases hf
  | notANumber => cases hf
  | zero sign => exact absurd rfl hn
  | finite sign mantissa exponent hm =>
    cases sign with
    | positive => rfl
    | negative => exact absurd rfl hn

variable {α : Type}

structure Constants (α : Type) where
  radius : α
  mass : α
  density : α
  gravity : α
  deriving DecidableEq

/-- Constants with which there is something to float and something to float on. -/
structure Constants.Sound (c : Constants Float) : Prop where
  radius_pos : 0.0 < c.radius
  radius_finite : Scalar.isFinite c.radius = true
  mass_pos : 0.0 < c.mass
  mass_finite : Scalar.isFinite c.mass = true
  density_pos : 0.0 < c.density
  density_finite : Scalar.isFinite c.density = true
  gravity_finite : Scalar.isFinite c.gravity = true

variable [Scalar α]

def Scene.constants (s : Scene α) : Constants α := ⟨s.sphere.radius, s.sphere.mass, s.water.density, s.gravity⟩

/-- The mass is made of the density and the volume. -/
def SceneSetup.constants (c : SceneSetup α) : Constants α :=
  ⟨c.sphere.radius, c.sphere.mass, c.water.density, c.gravity⟩

theorem Scene.constants_sound {s : Scene Float} (h : Scalar.isFinite s.gravity = true) : s.constants.Sound where
  radius_pos := Scalar.pos_of_isPositive s.sphere.radius_positive
  radius_finite := s.sphere.radius_positive.1
  mass_pos := Scalar.pos_of_isPositive s.sphere.mass_positive
  mass_finite := s.sphere.mass_positive.1
  density_pos := Scalar.pos_of_isPositive s.water.density_positive
  density_finite := s.water.density_positive.1
  gravity_finite := h

theorem SceneSetup.constants_of_build {c : SceneSetup α} {s : Scene α} (h : c.build id = .ok s) :
    s.constants = c.constants := by
  obtain ⟨hs, hw, hg⟩ := build_eq_ok h
  obtain ⟨hr, hm, -, -⟩ := SphereSetup.build_eq_ok hs
  rw [Scene.constants, hr, hm, Water.make_eq_ok hw, hg]
  rfl

/-- A setup that can be built has sound constants, and gives them to its scene. -/
theorem SimulatorSetup.constants_of_build {c : SimulatorSetup Float} {s : Scene Float} (h : c.build = .ok s) :
    s.constants = c.scene.constants ∧ c.scene.constants.Sound := by
  obtain ⟨hi, hb⟩ := build_eq_ok h
  have hc := SceneSetup.constants_of_build hb
  refine ⟨hc, hc ▸ Scene.constants_sound ?_⟩
  rw [(SceneSetup.build_eq_ok hb).2.2]
  exact (SceneSetup.issues_eq_nil.mp (issues_eq_nil.mp hi).1).2.2

namespace Rig

/-- The setup of the simulator and the constants of its scene. -/
def fixture (rig : Rig α) : SimulatorSetup α × Constants α := (rig.simulator.setup, rig.simulator.scene.constants)

theorem leaves_step (elapsed : α) : Leaves fixture (step elapsed) := by
  intro rig
  have hd := step_does rig.simulator elapsed rig
  have hs := congrArg Simulator.setup hd
  have hc := congrArg (fun s => s.scene.constants) hd
  rw [Simulator.does_setup] at hs
  refine Prod.ext hs (hc.trans ?_)
  rw [stepDeeds]
  split <;> rfl

theorem leaves_stepNominal : Leaves fixture (stepNominal : Action (Rig α) Unit) :=
  .bind (.read _) fun s => leaves_step s.setup.tickLength

theorem leaves_log (level : Level) (message : String) : Leaves fixture (log level message : Action (Rig α) Unit) :=
  .bind (.read _) fun _ => .onPart fun _ _ => rfl

theorem leaves_run : Leaves fixture (run : Action (Rig α) Nat) := by
  refine .bind (.read _) fun s => ?_
  split
  · refine .bind (leaves_log _ _) fun _ => .bind ?_ fun _ => ?_
    · exact .bind (.onPart fun _ _ => rfl) fun _ => .closing (.times (leaves_step _) _) (.onPart fun _ _ => rfl)
    · exact .bind (.read _) fun _ => .bind (leaves_log _ _) fun _ => .pure _
  · exact .pure _

theorem leaves_adoptTime (time : α) : Leaves fixture (adoptTime time) := by
  rw [adoptTime]
  split
  · exact .update fun _ => rfl
  · exact .raise _

theorem leaves_addObserver (observer : Option (HeightSink α)) : Leaves fixture (addObserver observer) := by
  cases observer with
  | none => exact .raise _
  | some sink => exact .update fun _ => rfl

/-- A fresh start brings the constants of the setup back, whatever the sinks make of its entry. -/
theorem reset_fixture (rig : Rig Float) (h : ∃ scene, rig.simulator.setup.build = .ok scene) :
    (reset.run rig).2.fixture = (rig.simulator.setup, rig.simulator.setup.scene.constants) := by
  obtain ⟨scene, hb⟩ := h
  rw [reset, run_bind_returned (run_read _ rig), hb]
  refine (leaves_log .info "Simulator reset" _).trans (Prod.ext rfl ?_)
  exact (SimulatorSetup.constants_of_build hb).1

/-- A scene is adopted as it is if it is accepted, and if it is refused nothing is. -/
theorem adoptScene_cases (scene : Scene α) (rig : Rig α) :
    (Scalar.isFinite scene.gravity = true ∧ (adoptScene scene).run rig =
        (.returned (), { rig with simulator := { rig.simulator with scene, latest := none } })) ∨
      ∃ fault, (adoptScene scene).run rig = (.raised (.fault fault), rig) := by
  rw [adoptScene]
  split
  · exact .inr ⟨_, rfl⟩
  · split
    · exact .inr ⟨_, rfl⟩
    · rename_i hg
      exact .inl ⟨by simpa using hg, rfl⟩

end Rig
end Flotation
