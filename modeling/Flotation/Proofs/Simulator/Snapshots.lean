import Flotation.Proofs.Setup.Building
import Flotation.Proofs.Simulator.Books

/-! Snapshots. A simulator takes back its own scene and its own time as long as they are finite. It steps by any
finite length, though, and a long one may lead to a scene or to a time that is not. -/
namespace Flotation
open Flotation.Action
variable {α : Type} [Scalar α]

/-- What the deed sets is finite. Of what a tick leads to nothing is said. -/
def Deed.Finite : Deed α → Prop
  | .adoptScene scene => scene.Finite
  | .adoptTime time => Scalar.isFinite time = true
  | _ => True

theorem Deed.lastScene_finite {start : Scene α} (hs : start.Finite) {deeds : List (Deed α)}
    (h : ∀ deed ∈ deeds, deed.Finite) : (lastScene start deeds).Finite := by
  induction deeds using List.reverseRecOn with
  | nil => exact hs
  | append_singleton deeds deed ih =>
    obtain ⟨hdeeds, hdeed⟩ := List.forall_mem_append.mp h
    rw [lastScene_concat]
    cases deed with
    | reset => exact hs
    | adoptScene scene => exact hdeed _ List.mem_cons_self
    | tick | adoptTime => exact ih hdeeds

theorem Deed.lastTime_finite {start : α} (hs : Scalar.isFinite start = true) {deeds : List (Deed α)}
    (h : ∀ deed ∈ deeds, deed.Finite) : Scalar.isFinite (lastTime start deeds) = true := by
  induction deeds using List.reverseRecOn with
  | nil => exact hs
  | append_singleton deeds deed ih =>
    obtain ⟨hdeeds, hdeed⟩ := List.forall_mem_append.mp h
    rw [lastTime_concat]
    cases deed with
    | reset => exact hs
    | adoptTime time => exact hdeed _ List.mem_cons_self
    | tick | adoptScene => exact ih hdeeds

/-- A simulator starts out from finite numbers. -/
theorem SimulatorSetup.build_finite {setup : SimulatorSetup α} {scene : Scene α}
    (h : setup.build = .ok scene) : scene.Finite ∧ Scalar.isFinite setup.start = true := by
  obtain ⟨hi, hb⟩ := build_eq_ok h
  obtain ⟨-, -, htime, -⟩ := issues_eq_nil.mp hi
  exact ⟨SceneSetup.build_finite hb, (timeIssues_eq_nil.mp htime).1⟩

namespace Rig

theorem stepDeeds_finite (elapsed : α) : ∀ deed ∈ stepDeeds elapsed, deed.Finite := by
  intro deed hd
  rw [stepDeeds] at hd
  split at hd
  · cases hd
  · rw [List.mem_singleton.mp hd]
    trivial

theorem seriesDeeds_finite (elapsed : α) (n : Nat) (rig : Rig α) :
    ∀ deed ∈ seriesDeeds elapsed n rig, deed.Finite := by
  induction n generalizing rig with
  | zero => exact List.forall_mem_nil _
  | succ n ih =>
    rw [seriesDeeds]
    refine List.forall_mem_append.mpr ⟨stepDeeds_finite elapsed, ?_⟩
    rcases (step elapsed).run rig with ⟨_ | _ | _, next⟩
    · exact ih next
    · exact List.forall_mem_nil _
    · exact List.forall_mem_nil _

theorem runDeeds_finite (rig : Rig α) : ∀ deed ∈ rig.runDeeds, deed.Finite := by
  rw [runDeeds]
  split
  · rcases (log .info _).run rig with ⟨_ | _ | _, begun⟩
    · exact seriesDeeds_finite _ _ _
    · exact List.forall_mem_nil _
    · exact List.forall_mem_nil _
  · exact List.forall_mem_nil _

/-- What is not finite is not adopted. -/
theorem deeds_finite (rig : Rig α) (call : Call α) : ∀ deed ∈ rig.deeds call, deed.Finite := by
  cases call with
  | step elapsed => exact stepDeeds_finite elapsed
  | stepNominal => exact stepDeeds_finite _
  | run => exact rig.runDeeds_finite
  | reset => exact List.forall_mem_singleton.mpr trivial
  | adoptScene scene =>
    rw [deeds]
    split
    · rename_i hf
      obtain ⟨hm, hg⟩ := Bool.and_eq_true_iff.mp hf
      obtain ⟨hh, hv⟩ := Bool.and_eq_true_iff.mp hm
      exact List.forall_mem_singleton.mpr ⟨hh, hv, hg⟩
    · exact List.forall_mem_nil _
  | adoptTime time =>
    rw [deeds]
    split
    · rename_i hf
      exact List.forall_mem_singleton.mpr hf
    · exact List.forall_mem_nil _
  | addObserver | clearObservers | meanwhile => exact List.forall_mem_nil _

theorem chronicle_finite (rig : Rig α) (calls : List (Call α)) :
    ∀ deed ∈ rig.chronicle calls, deed.Finite := by
  induction calls generalizing rig with
  | nil => exact List.forall_mem_nil _
  | cons call rest ih =>
    rw [chronicle]
    refine List.forall_mem_append.mpr ⟨rig.deeds_finite call, ?_⟩
    rcases (answer call).run rig with ⟨_ | _ | _, next⟩
    · exact ih next
    · exact ih next
    · exact List.forall_mem_nil _

/-- A rig is asked to adopt the scene that it is in. -/
theorem adoptScene_own {rig : Rig α} (hg : Scalar.isFinite rig.simulator.scene.gravity = true) :
    (adoptScene rig.simulator.scene).run rig =
      if Scalar.isFinite rig.simulator.height && Scalar.isFinite rig.simulator.velocity then
        (.returned (), { rig with simulator := { rig.simulator with latest := none } })
      else (.raised (.fault (.state .motionNotFinite)), rig) := by
  rw [adoptScene, Simulator.height, Simulator.velocity, hg]
  cases Scalar.isFinite rig.simulator.scene.sphere.height &&
      Scalar.isFinite rig.simulator.scene.sphere.velocity with
  | true => rfl
  | false => rfl

theorem adoptTime_own (rig : Rig α) :
    (adoptTime rig.simulator.time).run rig =
      if Scalar.isFinite rig.simulator.time then (.returned (), rig)
      else (.raised (.fault (.state .timeNotFinite)), rig) := by
  rw [adoptTime]
  cases Scalar.isFinite rig.simulator.time with
  | true => rfl
  | false => rfl

open Simulator Deed

/-- After any calls the simulator takes back its own scene if its height and its velocity are finite, and its
own time if that is, and otherwise refuses them. Neither changes the scene or the time. Height and velocity are
finite unless there was a tick since the scene was last set, and the time is finite unless there was one since
the time was last set. -/
theorem finite_snapshots_restored {setup : SimulatorSetup α} {st st' : Station} {start : Simulator α}
    (hc : (create setup).run st = (.returned start, st')) {calls : List (Call α)} {rig : Rig α}
    (h : (Rig.mk start st').after calls = some rig) :
    let deeds := (Rig.mk start st').chronicle calls
    ((adoptScene rig.simulator.scene).run rig =
        if Scalar.isFinite rig.simulator.height && Scalar.isFinite rig.simulator.velocity then
          (.returned (), { rig with simulator := { rig.simulator with latest := none } })
        else (.raised (.fault (.state .motionNotFinite)), rig)) ∧
      ((adoptTime rig.simulator.time).run rig =
        if Scalar.isFinite rig.simulator.time then (.returned (), rig)
        else (.raised (.fault (.state .timeNotFinite)), rig)) ∧
      (lengthsSince setsScene deeds = [] →
        Scalar.isFinite rig.simulator.height = true ∧ Scalar.isFinite rig.simulator.velocity = true) ∧
      (lengthsSince setsTime deeds = [] → Scalar.isFinite rig.simulator.time = true) := by
  intro deeds
  obtain ⟨hf, rfl⟩ := fresh_of_create hc
  obtain ⟨hstart, htime⟩ := SimulatorSetup.build_finite hf.build_eq
  have hdeeds : ∀ deed ∈ deeds, deed.Finite := chronicle_finite _ calls
  have hscene := lastScene_finite hstart hdeeds
  have hbooks := after_does hf rfl h ▸ hf.books deeds
  obtain ⟨height, velocity, hmoved⟩ :=
    (lastScene start.scene deeds).advances_moves (lengthsSince setsScene deeds)
  have hs : rig.simulator.scene = (lastScene start.scene deeds).advances (lengthsSince setsScene deeds) :=
    hbooks.scene_eq
  have ht : rig.simulator.time = (lengthsSince setsTime deeds).foldl (· + ·) (lastTime start.time deeds) :=
    hbooks.time_eq
  have hg : Scalar.isFinite rig.simulator.scene.gravity = true := by
    rw [hs, hmoved]
    exact hscene.gravity
  refine ⟨adoptScene_own hg, adoptTime_own rig, fun hn => ?_, fun hn => ?_⟩
  · rw [hn, Scene.advances_nil] at hs
    rw [Simulator.height, Simulator.velocity, hs]
    exact ⟨hscene.height, hscene.velocity⟩
  · rw [hn, List.foldl_nil, hf.time_eq] at ht
    rw [ht]
    exact lastTime_finite htime hdeeds

/-- A step of a length near the largest double, and one more. -/
def overlong : List (Call Float) := [.step 1.7e308, .step 1.7e308]

theorem overlong_snapshots_refused :
    ∃ start st rig, (create (.standard : SimulatorSetup Float)).run {} = (.returned start, st) ∧
      (Rig.mk start st).after overlong = some rig ∧
      (adoptScene rig.simulator.scene).run rig = (.raised (.fault (.state .motionNotFinite)), rig) ∧
      (adoptTime rig.simulator.time).run rig = (.raised (.fault (.state .timeNotFinite)), rig) := by
  have hm : (launched (.standard : SimulatorSetup Float) {}).any (fun rig => (rig.after overlong).any
      fun rig => !(Scalar.isFinite rig.simulator.height && Scalar.isFinite rig.simulator.velocity) &&
        !Scalar.isFinite rig.simulator.time) = true := by
    decide +kernel
  obtain ⟨⟨start, st⟩, hn, hm⟩ := (Option.any_eq_true _ _).mp hm
  obtain ⟨rig, ha, hm⟩ := (Option.any_eq_true _ _).mp hm
  have hc := create_of_launched hn
  rw [Bool.and_eq_true, Bool.not_eq_true', Bool.not_eq_true'] at hm
  obtain ⟨hscene, htime, -⟩ := finite_snapshots_restored hc ha
  rw [hm.1] at hscene
  rw [hm.2] at htime
  exact ⟨start, st, rig, hc, ha, hscene, htime⟩

/-- The rig after a step that raises nothing. -/
def stepped? (elapsed : α) (rig : Rig α) : Option (Rig α) :=
  match (step elapsed).run rig with
  | (.returned (), next) => some next
  | _ => none

theorem step_of_stepped? {elapsed : α} {rig next : Rig α} (h : rig.stepped? elapsed = some next) :
    (step elapsed).run rig = (.returned (), next) := by
  rw [stepped?] at h
  rcases hr : (step elapsed).run rig with ⟨_ | _ | _, after⟩ <;> rw [hr] at h <;> cases h
  rfl

/-- The simulator is in a scene that it would not adopt after one such step, and at a time that it would not
adopt after two, each of which it takes. -/
theorem accepted_steps_spoil_snapshots :
    ∃ start st once twice, (create (.standard : SimulatorSetup Float)).run {} = (.returned start, st) ∧
      (step 1.7e308).run ⟨start, st⟩ = (.returned (), once) ∧
      (adoptScene once.simulator.scene).run once = (.raised (.fault (.state .motionNotFinite)), once) ∧
      (step 1.7e308).run once = (.returned (), twice) ∧
      (adoptTime twice.simulator.time).run twice = (.raised (.fault (.state .timeNotFinite)), twice) := by
  have hm : (launched (.standard : SimulatorSetup Float) {}).any (fun rig =>
      (rig.stepped? 1.7e308).any fun once => Scalar.isFinite once.simulator.scene.gravity &&
        !(Scalar.isFinite once.simulator.height && Scalar.isFinite once.simulator.velocity) &&
        (once.stepped? 1.7e308).any fun twice => !Scalar.isFinite twice.simulator.time) = true := by
    decide +kernel
  obtain ⟨⟨start, st⟩, hn, hm⟩ := (Option.any_eq_true _ _).mp hm
  obtain ⟨once, honce, hm⟩ := (Option.any_eq_true _ _).mp hm
  obtain ⟨hscene, hm⟩ := Bool.and_eq_true_iff.mp hm
  obtain ⟨hg, hs⟩ := Bool.and_eq_true_iff.mp hscene
  obtain ⟨twice, htwice, htime⟩ := (Option.any_eq_true _ _).mp hm
  refine ⟨start, st, once, twice, create_of_launched hn, step_of_stepped? honce, ?_, step_of_stepped? htwice, ?_⟩
  · rw [adoptScene_own hg, (Bool.not_eq_true' _).mp hs]
    rfl
  · rw [adoptTime_own, (Bool.not_eq_true' _).mp htime]
    rfl

end Rig
end Flotation
