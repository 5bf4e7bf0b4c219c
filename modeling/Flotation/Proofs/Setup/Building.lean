import Flotation.Setup.Simulator

/-! Building from setups. Validation looks at what a setup says. The mass is not among that: it is made of the
density and the radius when the sphere is, and may turn out to be none. -/
namespace Flotation
variable {α β : Type} [Scalar α] [Scalar β]

theorem Issue.require_eq_nil {holds : Bool} {issue : Issue} : require holds issue = [] ↔ holds = true := by
  cases holds <;> simp [require]

theorem Sphere.make_eq_ok {radius mass height velocity : α} {s : Sphere α}
    (h : make radius mass height velocity = .ok s) :
    s.radius = radius ∧ s.mass = mass ∧ s.height = height ∧ s.velocity = velocity := by
  rw [make] at h
  split at h
  · split at h
    · cases h
      exact ⟨rfl, rfl, rfl, rfl⟩
    · cases h
  · cases h

theorem Water.make_eq_ok {density : α} {w : Water α} (h : make density = .ok w) : w.density = density := by
  rw [make] at h
  split at h
  · cases h
    rfl
  · cases h

/-- The motion and gravity of the scene are finite. -/
structure Scene.Finite (s : Scene α) : Prop where
  height : Scalar.isFinite s.sphere.height = true
  velocity : Scalar.isFinite s.sphere.velocity = true
  gravity : Scalar.isFinite s.gravity = true

namespace SphereSetup

/-- The mass of the sphere described. -/
def mass (c : SphereSetup α) : α := c.density * Sphere.volumeOf c.radius

theorem issues_eq_nil {c : SphereSetup α} :
    c.issues = [] ↔ Scalar.IsPositive c.radius ∧ Scalar.IsPositive c.density ∧
      Scalar.isFinite c.initialHeight = true ∧ Scalar.isFinite c.initialVelocity = true := by
  simp only [issues, List.append_eq_nil_iff, Issue.require_eq_nil, decide_eq_true_eq, and_assoc]

theorem build_eq_ok {convert : β → α} {c : SphereSetup β} {s : Sphere α} (h : c.build convert = .ok s) :
    s.radius = convert c.radius ∧ s.mass = convert c.density * Sphere.volumeOf (convert c.radius) ∧
      s.height = convert c.initialHeight ∧ s.velocity = convert c.initialVelocity := by
  rw [build] at h
  split at h
  · exact Sphere.make_eq_ok h
  · cases h

theorem issues_of_build {convert : β → α} {c : SphereSetup β} {s : Sphere α} (h : c.build convert = .ok s) :
    c.issues = [] := by
  rw [build] at h
  split at h
  · rename_i hi
    exact List.isEmpty_iff.mp hi
  · cases h

theorem build_of_mass {c : SphereSetup α} (h : c.issues = []) (hm : Scalar.IsPositive c.mass) :
    ∃ sphere, c.build id = .ok sphere := by
  have hr : Scalar.IsPositive (id c.radius) := (issues_eq_nil.mp h).1
  rw [build, h, List.isEmpty_nil, if_pos rfl, Sphere.make, dif_pos hr]
  exact ⟨_, dif_pos hm⟩

/-- Density and radius may be fine where what is made of them is not. -/
theorem build_unusable {c : SphereSetup α} (h : c.issues = []) (hm : ¬ Scalar.IsPositive c.mass) :
    c.build id = .error (.unusable "sphere.mass" (Scalar.toFloat c.mass)) := by
  have hr : Scalar.IsPositive (id c.radius) := (issues_eq_nil.mp h).1
  rw [build, h, List.isEmpty_nil, if_pos rfl, Sphere.make, dif_pos hr]
  exact dif_neg hm

end SphereSetup

theorem WaterSetup.build_of_issues {c : WaterSetup α} (h : c.issues = []) :
    ∃ water, c.build id = .ok water := by
  have hd : Scalar.IsPositive (id c.density) := by
    rw [issues, Issue.require_eq_nil, decide_eq_true_eq] at h
    exact h
  exact ⟨_, dif_pos hd⟩

namespace SceneSetup

theorem issues_eq_nil {c : SceneSetup α} :
    c.issues = [] ↔ c.sphere.issues = [] ∧ c.water.issues = [] ∧ Scalar.isFinite c.gravity = true := by
  simp only [issues, List.append_eq_nil_iff, Issue.require_eq_nil, and_assoc]

theorem build_eq_ok {convert : β → α} {c : SceneSetup β} {s : Scene α} (h : c.build convert = .ok s) :
    c.sphere.build convert = .ok s.sphere ∧ c.water.build convert = .ok s.water ∧
      s.gravity = convert c.gravity := by
  rw [build] at h
  split at h
  · cases hs : c.sphere.build convert with
    | error fault =>
      rw [hs] at h
      cases h
    | ok sphere =>
      cases hw : c.water.build convert with
      | error fault =>
        rw [hs, hw] at h
        cases h
      | ok water =>
        rw [hs, hw] at h
        cases h
        exact ⟨rfl, rfl, rfl⟩
  · cases h

theorem gravity_of_build {convert : β → α} {c : SceneSetup β} {s : Scene α} (h : c.build convert = .ok s) :
    Scalar.isFinite c.gravity = true := by
  rw [build] at h
  split at h
  · assumption
  · cases h

variable {c : SceneSetup α}

theorem build_of_mass (h : c.issues = []) (hm : Scalar.IsPositive c.sphere.mass) :
    ∃ scene, c.build id = .ok scene := by
  obtain ⟨hs, hw, hg⟩ := issues_eq_nil.mp h
  obtain ⟨sphere, hsphere⟩ := SphereSetup.build_of_mass hs hm
  obtain ⟨water, hwater⟩ := WaterSetup.build_of_issues hw
  rw [build, if_pos hg, hsphere, hwater]
  exact ⟨_, rfl⟩

theorem build_unusable (h : c.issues = []) (hm : ¬ Scalar.IsPositive c.sphere.mass) :
    c.build id = .error (.unusable "sphere.mass" (Scalar.toFloat c.sphere.mass)) := by
  obtain ⟨hs, -, hg⟩ := issues_eq_nil.mp h
  rw [build, if_pos hg, SphereSetup.build_unusable hs hm]
  rfl

/-- A scene is there if a look at it finds something. -/
theorem build_converted_of_any {convert : β → α} {c : SceneSetup β} {p : Scene α → Bool}
    (h : (c.build convert).toOption.any p = true) : ∃ scene, c.build convert = .ok scene ∧ p scene = true := by
  cases hb : c.build convert with
  | error fault =>
    rw [hb] at h
    cases h
  | ok scene =>
    rw [hb] at h
    exact ⟨scene, rfl, h⟩

theorem build_of_any {p : Scene α → Bool} (h : (c.build id).toOption.any p = true) :
    ∃ scene, c.build id = .ok scene ∧ p scene = true := build_converted_of_any h

/-- A scene starts out from finite numbers. -/
theorem build_finite {scene : Scene α} (h : c.build id = .ok scene) : scene.Finite := by
  obtain ⟨hs, -, hg⟩ := build_eq_ok h
  obtain ⟨-, -, hheight, hvelocity⟩ := SphereSetup.build_eq_ok hs
  obtain ⟨-, -, hh, hv⟩ := SphereSetup.issues_eq_nil.mp (SphereSetup.issues_of_build hs)
  exact ⟨hheight ▸ hh, hvelocity ▸ hv, hg ▸ gravity_of_build h⟩

end SceneSetup

namespace SimulatorSetup
variable {c : SimulatorSetup α}

theorem timeIssues_eq_nil :
    c.timeIssues = [] ↔ Scalar.isFinite c.start = true ∧ Scalar.isFinite c.finish = true ∧
      ¬ c.finish < c.start := by
  rw [timeIssues]
  split
  · rename_i h
    obtain ⟨hs, hf⟩ := Bool.and_eq_true_iff.mp h
    simp [Issue.require_eq_nil, hs, hf]
  · rename_i h
    refine iff_of_false (List.cons_ne_nil _ _) fun ht => h ?_
    rw [ht.1, ht.2.1]
    rfl

theorem issues_eq_nil :
    c.issues = [] ↔ c.scene.issues = [] ∧ Scalar.IsPositive c.tickLength ∧ c.timeIssues = [] ∧
      (c.logging.fileEnabled && c.logging.filePath.isEmpty) = false := by
  simp only [issues, List.append_eq_nil_iff, Issue.require_eq_nil, decide_eq_true_eq, Bool.not_eq_true',
    and_assoc]

/-- The scene of a setup without issues is a matter of its constants. -/
theorem build_of_issues (h : c.issues = []) : c.build = c.scene.build id := by
  rw [build, h, List.isEmpty_nil, if_pos rfl]

theorem build_eq_ok {scene : Scene α} (h : c.build = .ok scene) :
    c.issues = [] ∧ c.scene.build id = .ok scene := by
  rw [build] at h
  split at h
  · rename_i hi
    exact ⟨List.isEmpty_iff.mp hi, h⟩
  · cases h

theorem build_cases (c : SimulatorSetup α) :
    (c.issues ≠ [] ∧ c.build = .error (.setup (.issues c.issues) { file := c.sourceFile })) ∨
      c.issues = [] ∧
        (¬ Scalar.IsPositive c.scene.sphere.mass ∧
            c.build = .error (.unusable "sphere.mass" (Scalar.toFloat c.scene.sphere.mass)) ∨
          Scalar.IsPositive c.scene.sphere.mass ∧ ∃ scene, c.build = .ok scene) := by
  by_cases hi : c.issues = []
  · have hs : c.scene.issues = [] := (issues_eq_nil.mp hi).1
    rw [build_of_issues hi]
    by_cases hm : Scalar.IsPositive c.scene.sphere.mass
    · exact .inr ⟨hi, .inr ⟨hm, SceneSetup.build_of_mass hs hm⟩⟩
    · exact .inr ⟨hi, .inl ⟨hm, SceneSetup.build_unusable hs hm⟩⟩
  · exact .inl ⟨hi, if_neg fun he => hi (List.isEmpty_iff.mp he)⟩

end SimulatorSetup
end Flotation
