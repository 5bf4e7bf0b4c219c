import Flotation.Proofs.Session.Counting
import Flotation.Proofs.Session.Moves
import Flotation.Proofs.Session.Refusals
import Flotation.Proofs.Simulator.Constants

/-! The constants of simulators in the course of a session. They are set when a simulator is made, when it adopts
a scene and when it is reset, and by nothing else. -/
namespace Flotation
open Flotation.Action

/-- The constants with some of them changed. -/
def SceneChange.constants (c : SceneChange) (old : Constants Float) : Constants Float :=
  ⟨c.radius.getD old.radius, c.mass.getD old.mass, c.water.getD old.density, c.gravity.getD old.gravity⟩

/-- Nothing was raised. -/
def Outcome.accepted {α : Type} : Outcome α → Bool
  | .returned _ => true
  | _ => false

namespace Session
variable {s : Session} {name : String} {a b : Simulator Float}

theorem constants_of_changed {c : SceneChange} {old new : Scene Float} (h : changed old c = .ok new) :
    new.constants = c.constants old.constants := by
  rw [changed] at h
  cases hs : Sphere.make (c.radius.getD old.sphere.radius) (c.mass.getD old.sphere.mass)
    (c.height.getD old.sphere.height) (c.velocity.getD old.sphere.velocity) with
  | error fault =>
    rw [hs] at h
    cases h
  | ok sphere =>
    cases hw : Water.make (c.water.getD old.water.density) with
    | error fault =>
      rw [hs, hw] at h
      cases h
    | ok water =>
      rw [hs, hw] at h
      cases h
      obtain ⟨hr, hm, -, -⟩ := Sphere.make_eq_ok hs
      rw [Scene.constants, hr, hm, Water.make_eq_ok hw]
      rfl

/-- The constants that a request sets for the simulator of its name. What is refused sets none. A reset is not
refused, even if its entry is. -/
def set? (s : Session) (r : Request) : Option (Constants Float) :=
  let accepted := ((perform r).run s).1.accepted
  match r.command with
  | .newSimulator blueprint =>
    match blueprint.read with
    | .ok setup => if accepted then some setup.scene.constants else none
    | .error _ => none
  | .reset => (s.simulators.get? r.simulator).map (·.setup.scene.constants)
  | .adoptScene change =>
    if accepted then
      (s.simulators.get? r.simulator).map fun a => change.constants a.scene.constants
    else none
  | .restore snapshot =>
    if accepted then
      (s.simulators.get? r.simulator).bind fun _ => (s.snapshots.get? snapshot).map Scene.constants
    else none
  | _ => none

/-- The constants that a turn sets for the simulator of a name. -/
def setting? (name : String) (s : Session) : Turn → Option (Constants Float)
  | .request r => if r.simulator = name then s.set? r else none
  | .enlist .. => none

/-- All constants that some turns set for the simulator of a name, the first of them first. -/
def settings (name : String) (s : Session) : List Turn → List (Constants Float)
  | [] => []
  | turn :: rest =>
    (s.setting? name turn).toList ++
      match s.afterTurn turn with
      | some t => t.settings name rest
      | none => []

/-- The setup and the constants of the simulator of a name. -/
def fixture? (name : String) (s : Session) : Option (SimulatorSetup Float × Constants Float) :=
  (s.simulators.get? name).map fun a => (a.setup, a.scene.constants)

/-- Every simulator has a setup that can be built. -/
def Built (s : Session) : Prop :=
  ∀ name setup c, s.fixture? name = some (setup, c) → ∃ scene, setup.build = .ok scene

/-- What there is under the name afterwards has the constants given to it, which are sound, or those it had before
if none were given. -/
def Heeds (name : String) (given : Option (Constants Float)) (s t : Session) : Prop :=
  ∀ setup c, t.fixture? name = some (setup, c) → (∃ scene, setup.build = .ok scene) ∧
    (given = some c ∧ c.Sound ∨ given = none ∧ s.fixture? name = some (setup, c))

variable {t : Session} {given : Option (Constants Float)}

theorem Heeds.idle (hb : s.Built) (h : t.fixture? name = s.fixture? name) : Heeds name none s t := by
  intro setup c hc
  rw [h] at hc
  exact ⟨hb name setup c hc, .inr ⟨rfl, hc⟩⟩

theorem Heeds.gone (h : t.simulators.get? name = none) : Heeds name given s t := by
  intro setup c hc
  rw [fixture?, h] at hc
  cases hc

theorem Heeds.set {setup : SimulatorSetup Float} {c : Constants Float}
    (h : t.fixture? name = some (setup, c)) (hb : ∃ scene, setup.build = .ok scene) (hc : c.Sound) :
    Heeds name (some c) s t := by
  intro setup' c' h'
  cases h.symm.trans h'
  exact ⟨hb, .inl ⟨rfl, hc⟩⟩

theorem fixture?_of_get? (h : s.simulators.get? name = some a) :
    s.fixture? name = some (a.setup, a.scene.constants) := by
  rw [fixture?, h, Option.map_some]

theorem fixture?_atSimulator {x : Action (Rig Float) Answer} (h : s.simulators.get? name = some a) :
    ((atSimulator name x).run s).2.fixture? name = some (x.run ⟨a, s.station⟩).2.fixture := by
  rw [run_atSimulator h, fixture?, Named.get?_put_self]
  rfl

theorem fixture?_of_leaves {x : Action (Rig Float) Answer} (hx : Leaves Rig.fixture x) :
    ((atSimulator name x).run s).2.fixture? name = s.fixture? name := by
  cases h : s.simulators.get? name with
  | none => rw [run_atSimulator_none h]
  | some simulator =>
    rw [fixture?_atSimulator h, hx ⟨simulator, s.station⟩, fixture?_of_get? h]
    rfl

/-- A simulator that is asked to adopt a scene has the constants of that scene if it is accepted, and its own if
not. -/
theorem adoption_heeds (hb : s.Built) (ha : s.simulators.get? name = some a) (scene : Scene Float) :
    let x := quietly (Rig.adoptScene scene)
    Heeds name (if ((atSimulator name x).run s).1.accepted then some scene.constants else none) s
      ((atSimulator name x).run s).2 := by
  intro x
  have hold := fixture?_of_get? ha
  have hnew := fixture?_atSimulator (x := x) ha
  have ho : ((atSimulator name x).run s).1 = (x.run ⟨a, s.station⟩).1 := by rw [run_atSimulator ha]
  rw [ho]
  rcases Rig.adoptScene_cases scene ⟨a, s.station⟩ with ⟨hg, hr⟩ | ⟨fault, hr⟩
  · have hx : x.run ⟨a, s.station⟩ = _ := run_bind_returned hr _
    rw [hx] at hnew ⊢
    exact .set hnew (hb name _ _ hold) (Scene.constants_sound hg)
  · have hx : x.run ⟨a, s.station⟩ = _ := run_bind_raised hr _
    rw [hx] at hnew ⊢
    exact .idle hb (hnew.trans hold.symm)

theorem change_heeds (hb : s.Built) (ha : s.simulators.get? name = some a) (change : SceneChange) :
    let x := quietly (adoptScene change)
    Heeds name (if ((atSimulator name x).run s).1.accepted then some (change.constants a.scene.constants) else none)
      s ((atSimulator name x).run s).2 := by
  intro x
  have hx : x.run ⟨a, s.station⟩ = (quietly (.ofExcept (changed a.scene change) >>= Rig.adoptScene)).run
      ⟨a, s.station⟩ := rfl
  cases hc : changed a.scene change with
  | error fault =>
    rw [hc] at hx
    rw [run_atSimulator ha, hx]
    refine .idle hb ?_
    rw [fixture?, Named.get?_put_self, fixture?_of_get? ha]
    rfl
  | ok scene =>
    rw [hc] at hx
    change _ = (quietly (Rig.adoptScene scene)).run _ at hx
    have he : (atSimulator name x).run s = (atSimulator name (quietly (Rig.adoptScene scene))).run s := by
      rw [run_atSimulator ha, run_atSimulator ha, hx]
    rw [he, ← constants_of_changed hc]
    exact adoption_heeds hb ha scene

theorem reset_heeds (hb : s.Built) (ha : s.simulators.get? name = some a) :
    Heeds name (some a.setup.scene.constants) s ((atSimulator name (quietly Rig.reset)).run s).2 := by
  have hold := fixture?_of_get? ha
  have hbuilt := hb name _ _ hold
  have hnew := fixture?_atSimulator (x := quietly Rig.reset) ha
  rw [quietly, state_bind_pure, Rig.reset_fixture ⟨a, s.station⟩ hbuilt] at hnew
  obtain ⟨scene, hscene⟩ := hbuilt
  exact .set hnew ⟨scene, hscene⟩ (SimulatorSetup.constants_of_build hscene).2

theorem restore_heeds (hb : s.Built) (ha : s.simulators.get? name = some a) (snapshot : String) :
    Heeds name (if ((restore name snapshot).run s).1.accepted then
      (s.snapshots.get? snapshot).map Scene.constants else none) s ((restore name snapshot).run s).2 := by
  rw [restore, run_bind_returned (run_read _ s)]
  cases s.snapshots.get? snapshot with
  | none => exact .idle hb rfl
  | some scene => exact adoption_heeds hb ha scene

theorem restore_gone (h : s.simulators.get? name = none) (snapshot : String) :
    ((restore name snapshot).run s).2.simulators.get? name = none := by
  rw [restore, run_bind_returned (run_read _ s)]
  cases s.snapshots.get? snapshot with
  | none => exact h
  | some scene =>
    change ((atSimulator name _).run s).2.simulators.get? name = none
    rw [run_atSimulator_none h]
    exact h

theorem quietly_accepted (x : Action Session Unit) (s : Session) :
    ((quietly x).run s).1.accepted = (x.run s).1.accepted := by
  rw [quietly, run_bind]
  rcases x.run s with ⟨_ | _ | _, t⟩ <;> rfl

theorem newSimulator_heeds (hb : s.Built) (setup : SimulatorSetup Float)
    (hn : ((quietly (newSimulator name (.setup setup))).run s).1 ≠ .aborted) :
    let x := quietly (newSimulator name (.setup setup))
    Heeds name (if (x.run s).1.accepted then some setup.scene.constants else none) s (x.run s).2 := by
  intro x
  rw [quietly, Ne, outcome_bind_pure] at hn
  rw [quietly_accepted, quietly_state]
  rcases Simulator.create_cases setup s.station with ⟨fault, hr⟩ | ⟨scene, made, hbuild, hr, -⟩
  · rw [newSimulator_raised hr]
    exact .idle hb rfl
  · obtain ⟨hc, hs⟩ := SimulatorSetup.constants_of_build hbuild
    have hput {t : Session} (ht : t.simulators = s.simulators.put name
        ⟨setup, scene, setup.start, 0, [], none, s.station.serials⟩) :
        Heeds name (some setup.scene.constants) s t := by
      have hf : t.fixture? name = some (setup, setup.scene.constants) := by
        rw [fixture?, ht, Named.get?_put_self, ← hc]
        rfl
      exact .set hf ⟨scene, hbuild⟩ hs
    cases hg : s.simulators.get? name with
    | none =>
      rw [newSimulator_run hg hr]
      exact hput rfl
    | some old =>
      rcases hd : old.destroy.run made with ⟨_ | failure | _, left⟩
      · rw [newSimulator_run_taken hg hr hd]
        exact hput rfl
      · exact absurd (congrArg Prod.fst hd) (old.destroy_not_raised made failure)
      · rw [newSimulator_run_taken hg hr hd] at hn
        exact absurd rfl hn

theorem set?_unaddressed {r : Request} (h : r.command.addresses = false) : s.set? r = none := by
  obtain ⟨service, simulator, console, command⟩ := r
  cases command with
  | newSimulator | reset | adoptScene | restore => cases h
  | _ => rfl

theorem Heeds.absent {x : Action (Rig Float) Answer} (h : s.simulators.get? name = none) :
    Heeds name given s ((atSimulator name x).run s).2 := by
  rw [run_atSimulator_none h]
  exact .gone h

/-- A request leaves under its name what it sets there, or what there was. -/
theorem own_heeds (hb : s.Built) {r : Request} (hn : ((perform r).run s).1 ≠ .aborted) :
    Heeds r.simulator (s.set? r) s ((perform r).run s).2 := by
  cases haddr : r.command.addresses with
  | false =>
    rw [set?_unaddressed haddr]
    exact .idle hb (congrArg (Option.map _) (apart_unaddressed haddr s))
  | true =>
    obtain ⟨service, name, console, command⟩ := r
    cases command with
    | newSimulator blueprint =>
      have hp : perform ⟨service, name, console, .newSimulator blueprint⟩ =
          quietly (newSimulator name blueprint) := rfl
      rw [set?]
      rw [hp] at hn ⊢
      dsimp only at hn ⊢
      cases hr : blueprint.read with
      | error fault =>
        rw [quietly_raised (newSimulator_unread hr name s)]
        exact .idle hb rfl
      | ok setup =>
        rw [newSimulator_read hr] at hn ⊢
        exact newSimulator_heeds hb setup hn
    | destroy =>
      refine .gone ?_
      rw [perform, quietly_state]
      dsimp only
      cases hg : s.simulators.get? name with
      | none =>
        rw [takeDown_run_none hg]
        exact hg
      | some old =>
        rw [takeDown_run hg rfl]
        exact Named.get?_erase_self _ _
    | step elapsed times =>
      cases elapsed with
      | none => exact .idle hb (fixture?_of_leaves (.bind (.times Rig.leaves_stepNominal _) fun _ => .pure _))
      | some elapsed =>
        exact .idle hb (fixture?_of_leaves (.bind (.times (Rig.leaves_step elapsed) _) fun _ => .pure _))
    | run => exact .idle hb (fixture?_of_leaves (.bind Rig.leaves_run fun _ => .pure _))
    | describe => exact .idle hb (fixture?_of_leaves (.read _))
    | adoptTime time => exact .idle hb (fixture?_of_leaves (.bind (Rig.leaves_adoptTime time) fun _ => .pure _))
    | addObserver observer =>
      exact .idle hb (fixture?_of_leaves (.bind (Rig.leaves_addObserver observer) fun _ => .pure _))
    | clearObservers =>
      exact .idle hb (fixture?_of_leaves (.bind (.update fun _ => rfl) fun _ => .pure _))
    | reset =>
      cases hg : s.simulators.get? name with
      | none => exact .absent hg
      | some a =>
        rw [set?, hg]
        exact reset_heeds hb hg
    | adoptScene change =>
      cases hg : s.simulators.get? name with
      | none => exact .absent hg
      | some a =>
        rw [set?, hg]
        exact change_heeds hb hg change
    | restore snapshot =>
      cases hg : s.simulators.get? name with
      | none => exact .gone (restore_gone hg snapshot)
      | some a =>
        rw [set?, hg]
        exact restore_heeds hb hg snapshot
    | _ => cases haddr

/-- A turn leaves under every name what it sets there, or what there was. -/
theorem turn_heeds (hb : s.Built) {turn : Turn} (h : s.afterTurn turn = some t) (name : String) :
    Heeds name (s.setting? name turn) s t := by
  cases turn with
  | request r =>
    have hn := not_aborted_of_after h
    rw [afterTurn, after_cons hn] at h
    cases h
    rw [setting?]
    split_ifs with hr
    · subst hr
      exact own_heeds hb hn
    · exact .idle hb (congrArg (Option.map _) (apart_perform hr s))
  | enlist service sink threshold =>
    cases h
    refine .idle hb ?_
    rw [fixture?, settle]
    split <;> rfl

theorem afterTurn_built (hb : s.Built) {turn : Turn} (h : s.afterTurn turn = some t) : t.Built := by
  intro name setup c hc
  exact (turn_heeds hb h name setup c hc).1

/-- What was set last is there in the end, or what there was if nothing was set. -/
theorem turns_heed (hb : s.Built) {turns : List Turn} (h : s.afterTurns turns = some t) (name : String) :
    Heeds name (s.settings name turns).getLast? s t := by
  induction turns generalizing s with
  | nil =>
    cases h
    exact .idle hb rfl
  | cons turn rest ih =>
    obtain ⟨u, hu, ht⟩ := Option.bind_eq_some_iff.mp h
    have hfirst := turn_heeds hb hu name
    have hrest := ih (afterTurn_built hb hu) ht
    intro setup c hc
    obtain ⟨hbuilt, ⟨hlast, hsound⟩ | ⟨hnone, hkept⟩⟩ := hrest setup c hc
    · refine ⟨hbuilt, .inl ⟨?_, hsound⟩⟩
      rw [settings, hu, List.getLast?_append, hlast]
      rfl
    · obtain ⟨-, ⟨hset, hsound⟩ | ⟨hset, hold⟩⟩ := hfirst setup c hkept
      · refine ⟨hbuilt, .inl ⟨?_, hsound⟩⟩
        rw [settings, hu, List.getLast?_append, hnone, hset]
        rfl
      · refine ⟨hbuilt, .inr ⟨?_, hold⟩⟩
        rw [settings, hu, List.getLast?_append, hnone, hset]
        rfl

/-- Whatever is done in the course of a session, and among whatever files, the constants of the simulator under a
name are those that were set last: when it was made, by a scene that it adopted, or by a reset. Steps and runs do not
change them, and nothing that is refused does, nor anything that is done to other simulators and to the log. They are
sound: radius, mass and density are finite and above zero, and gravity is finite. -/
theorem constants_follow_settings {files : Directory} {turns : List Turn} {t : Session}
    (h : (among files).afterTurns turns = some t) {name : String} {a : Simulator Float}
    (ha : t.simulators.get? name = some a) :
    ((among files).settings name turns).getLast? = some a.scene.constants ∧ a.scene.constants.Sound := by
  have hb : (among files).Built := fun _ _ _ hc => nomatch hc
  have hc := fixture?_of_get? ha
  obtain ⟨-, hset | ⟨-, hold⟩⟩ := turns_heed hb h name _ _ hc
  · exact hset
  · cases hold

/-- A float that is put on the moon and back, among steps, with another beside it, and scenes that it refuses. -/
def moonlit : List Turn :=
  let ask (name : String) (command : Command) : Turn := .request ⟨sharedService, name, none, command⟩
  [ask "main" (.newSimulator (.setup .standard)), ask "main" (.step none 2),
    ask "other" (.newSimulator (.file "brief.yaml" fun _ => .ok brief)),
    ask "main" (.adoptScene ⟨none, some 3.0, none, none, none, some 1.62⟩), ask "main" (.save "moon"),
    ask "main" .reset, ask "other" (.adoptScene ⟨none, none, none, none, some 500.0, none⟩),
    ask "main" (.restore "moon"), ask "main" (.adoptScene ⟨none, some (-1.0), none, none, none, none⟩),
    ask "main" (.adoptScene ⟨none, some 5.0, none, none, none, some (1.0 / 0.0)⟩), ask "main" (.step none 1)]

/-- Four times constants are set, and the last are those of the moon. -/
theorem moonlit_constants :
    ∃ t a, (among {}).afterTurns moonlit = some t ∧ t.simulators.get? "main" = some a ∧
      ((among {}).settings "main" moonlit).getLast? = some a.scene.constants ∧ a.scene.constants.Sound ∧
      ((among {}).settings "main" moonlit).map (·.gravity) = [9.81, 1.62, 9.81, 1.62] := by
  have hm : ((among {}).afterTurns moonlit).any (fun t => (t.simulators.get? "main").isSome) = true := by
    decide +kernel
  have hg : ((among {}).settings "main" moonlit).map (·.gravity) = [9.81, 1.62, 9.81, 1.62] := by
    decide +kernel
  obtain ⟨t, ht, ha⟩ := (Option.any_eq_true _ _).mp hm
  obtain ⟨a, ha⟩ := Option.isSome_iff_exists.mp ha
  obtain ⟨hlast, hsound⟩ := constants_follow_settings ht ha
  exact ⟨t, a, ht, ha, hlast, hsound, hg⟩

end Session
end Flotation
