import Flotation.Proofs.Setup.Building
import Flotation.Proofs.Simulator.Making

/-! Validation of setups. It looks at what a setup says, and what it finds is raised with the source file. The
mass is not among that: it is made of a radius and a density when the sphere is, and nobody knows of a file
then. -/
namespace Flotation
open Flotation.Action
variable {α : Type} [Scalar α]

namespace Simulator

/-- A simulator that keeps no log file can be made if validation finds no issue and density and radius make a
mass, and only then. Issues are raised with the source file of the setup. Where none is found and there is no
mass for all that, it is the mass that is complained of, and the source file is lost. -/
theorem validation_decides_but_for_mass {setup : SimulatorSetup α} (hf : setup.logging.fileEnabled = false)
    (st : Station) :
    ((∃ new st', (create setup).run st = (.returned new, st')) ↔
        setup.issues = [] ∧ Scalar.IsPositive setup.scene.sphere.mass) ∧
      (setup.issues ≠ [] → (create setup).run st =
        (.raised (.fault (.setup (.issues setup.issues) { file := setup.sourceFile })), st)) ∧
      (setup.issues = [] → ¬ Scalar.IsPositive setup.scene.sphere.mass → (create setup).run st =
        (.raised (.fault (.setup (.unusable "sphere.mass" (Scalar.toFloat setup.scene.sphere.mass))
          { file := "" })), st)) := by
  rcases setup.build_cases with ⟨hi, hb⟩ | ⟨hi, ⟨hm, hb⟩ | ⟨hm, scene, hb⟩⟩
  · have hr := create_of_build_error hb st
    refine ⟨iff_of_false ?_ fun h => hi h.1, fun _ => hr, fun h => absurd h hi⟩
    rintro ⟨new, st', h⟩
    rw [hr] at h
    cases h
  · have hr := create_of_build_error hb st
    refine ⟨iff_of_false ?_ fun h => hm h.2, fun h => absurd hi h, fun _ _ => hr⟩
    rintro ⟨new, st', h⟩
    rw [hr] at h
    cases h
  · rcases takeOver_cases setup.logging st with ht | ⟨outlets, ht⟩
    · -- there is no file to be opened
      rw [takeOver, hf] at ht
      cases ht
    · obtain ⟨st', hr, -⟩ := create_of_takeOver hb ht
      exact ⟨iff_of_true ⟨_, st', hr⟩ ⟨hi, hm⟩, fun h => absurd hi h, fun _ h => absurd hm h⟩

/-- A sphere so small that its volume, and with it the mass, is rounded to nothing. -/
def speck : SimulatorSetup Float :=
  { SimulatorSetup.standard with
    sourceFile := "speck.yaml"
    scene := { SceneSetup.standard with sphere := { SphereSetup.standard with radius := 1e-200 } } }

/-- One so large that its mass is infinite. -/
def moon : SimulatorSetup Float :=
  { SimulatorSetup.standard with
    sourceFile := "moon.yaml"
    scene := { SceneSetup.standard with sphere := { SphereSetup.standard with radius := 1e150 } } }

theorem speck_unusable :
    speck.logging.fileEnabled = false ∧ speck.issues = [] ∧
      ¬ Scalar.IsPositive speck.scene.sphere.mass ∧
      (¬ ∃ new st', (create speck).run {} = (.returned new, st')) ∧
      (create speck).run {} =
        (.raised (.fault (.setup (.unusable "sphere.mass" speck.scene.sphere.mass) { file := "" })), {}) := by
  have hf : speck.logging.fileEnabled = false := rfl
  have hi : speck.issues = [] := by decide +kernel
  have hm : ¬ Scalar.IsPositive speck.scene.sphere.mass := by decide +kernel
  obtain ⟨hmade, -, hraised⟩ := validation_decides_but_for_mass hf {}
  exact ⟨hf, hi, hm, fun h => hm (hmade.mp h).2, hraised hi hm⟩

/-- What a making at a new station is refused for: the file that it is put down to. -/
def refusedFor? (setup : SimulatorSetup Float) : Option String :=
  match (create setup).run {} with
  | (.raised (.fault (.setup _ origin)), _) => some origin.file
  | _ => none

/-- Validation has nothing against either sphere, yet neither can be made, and the file is not named. -/
theorem unmakeable_without_issue :
    (speck.issues = [] ∧ refusedFor? speck = some "" ∧ speck.sourceFile ≠ "") ∧
      moon.issues = [] ∧ refusedFor? moon = some "" ∧ moon.sourceFile ≠ "" := by
  decide +kernel

end Simulator
end Flotation
