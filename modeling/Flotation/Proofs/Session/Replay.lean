import Flotation.Proofs.Session.Moves
import Flotation.Proofs.Simulator.Likeness

/-! Replays. The motion of a simulator is told from its setup, its scene, its time and the calls that bear on
it, and from nothing else that goes on in a session. -/
namespace Flotation
open Flotation.Action

/-- The call bears on the motion: ticks are asked for, or a fresh start, a scene or a time. -/
def Call.drives : Call Float → Bool
  | .step _ | .stepNominal | .run | .reset | .adoptScene _ | .adoptTime _ => true
  | .addObserver _ | .clearObservers | .meanwhile _ => false

/-- The call that the move puts to the simulator, if it bears on the motion. -/
def Move.driving? : Move → Option (Call Float)
  | .ask call => if call.drives then some call else none
  | .other _ => none

/-- What a call shows: its end, what can be seen after each tick it takes, and the state after it. -/
structure Showing where
  outcome : Outcome Answer
  film : List (Frame Float)
  time : Float
  height : Float
  velocity : Float

/-- Scene and time as they can be set. -/
structure Simulator.Settable (a : Simulator Float) : Prop where
  height_finite : Scalar.isFinite a.height = true
  velocity_finite : Scalar.isFinite a.velocity = true
  gravity_finite : Scalar.isFinite a.scene.gravity = true
  time_finite : Scalar.isFinite a.time = true

namespace Session

def driving (moves : List Move) : List (Call Float) := moves.filterMap Move.driving?

def showing (call : Call Float) (rig : Rig Float) : Showing :=
  let after := ((reply call).run rig).2.simulator
  ⟨((reply call).run rig).1, rig.film call, after.time, after.height, after.velocity⟩

/-- What the move shows of the simulator of the name, if it is a call that bears on the motion. -/
def showing? (name : String) (s : Session) (move : Move) : Option Showing :=
  match move.driving?, s.simulators.get? name with
  | some call, some simulator => some (showing call ⟨simulator, s.station⟩)
  | _, _ => none

/-- All that is shown in the course of some moves, up to one that aborts the program. -/
def watch (name : String) (s : Session) : List Move → List Showing
  | [] => []
  | move :: rest =>
    (s.showing? name move).toList ++
      match (make name move).run s with
      | (.aborted, _) => []
      | (_, t) => t.watch name rest

/-- No sink complains in the course of some moves. -/
def undisturbed (name : String) (s : Session) : List Move → Bool
  | [] => true
  | move :: rest =>
    ((make name move).run s).1.calm && ((make name move).run s).2.undisturbed name rest

/-- Go back to the scene and the time of a simulator. -/
def restart (a : Simulator Float) : List Move :=
  [.ask (.adoptScene a.scene), .ask (.adoptTime a.time)]

variable {name name' : String} {s s' t : Session} {a b : Simulator Float} {moves moves' : List Move}

theorem ask_of_driving {move : Move} {call : Call Float} (h : move.driving? = some call) :
    move = .ask call ∧ call.drives = true := by
  cases move with
  | ask asked =>
    rw [Move.driving?] at h
    split at h
    · rename_i hd
      cases h
      exact ⟨rfl, hd⟩
    · cases h
  | other request => cases h

theorem reply_state (call : Call Float) (rig : Rig Float) :
    ((reply call).run rig).2 = ((Rig.answer call).run rig).2 := by
  cases call with
  | run => exact (state_bind_pure _ _ rig).trans (state_bind_pure _ _ rig).symm
  | _ => exact state_bind_pure _ _ rig

theorem reply_concurs {call : Call Float} (hd : call.drives = true) {r r' : Rig Float} (h : r.Alike r') :
    Concur Rig.Alike ((reply call).run r) ((reply call).run r') := by
  cases call with
  | step elapsed => exact .bind (Rig.step_concurs h elapsed) fun _ _ _ hr => .alike hr
  | stepNominal =>
    refine .bind ?_ fun _ _ _ hr => .alike hr
    rw [Rig.answer, Rig.stepNominal, run_bind_returned (run_read _ r), run_bind_returned (run_read _ r'),
      h.tickLength_eq]
    exact Rig.step_concurs h _
  | run => exact .bind (Rig.run_concurs h) fun _ _ _ hr => .alike hr
  | reset => exact .bind (Rig.reset_concurs h) fun _ _ _ hr => .alike hr
  | adoptScene scene => exact .bind (Rig.adoptScene_concurs h scene) fun _ _ _ hr => .alike hr
  | adoptTime time => exact .bind (Rig.adoptTime_concurs h time) fun _ _ _ hr => .alike hr
  | _ => cases hd

theorem film_eq {call : Call Float} {r r' : Rig Float} (h : r.Alike r')
    (hx : ((reply call).run r).1.calm = true) (hy : ((reply call).run r').1.calm = true) :
    r.film call = r'.film call := by
  have hstep {elapsed : Float} (hx : ((Rig.step elapsed).run r).1.calm = true)
      (hy : ((Rig.step elapsed).run r').1.calm = true) :
      Rig.seriesFilm elapsed 1 r = Rig.seriesFilm elapsed 1 r' :=
    Rig.seriesFilm_eq h ((times_one (Rig.step elapsed)).symm ▸ hx) ((times_one (Rig.step elapsed)).symm ▸ hy)
  cases call with
  | step elapsed => exact hstep (calm_of_bind hx) (calm_of_bind hy)
  | stepNominal =>
    have hx := calm_of_bind hx
    have hy := calm_of_bind hy
    rw [Rig.answer, Rig.stepNominal, run_bind_returned (run_read _ r)] at hx
    rw [Rig.answer, Rig.stepNominal, run_bind_returned (run_read _ r'), ← h.tickLength_eq] at hy
    rw [Rig.film, Rig.film, ← h.tickLength_eq]
    exact hstep hx hy
  | run => exact Rig.runFilm_eq h (calm_of_bind hx) (calm_of_bind hy)
  | _ => rfl

/-- A calm call that bears on the motion shows the same of simulators that are alike. -/
theorem showing_eq {call : Call Float} (hd : call.drives = true) {r r' : Rig Float} (h : r.Alike r')
    (hx : ((reply call).run r).1.calm = true) (hy : ((reply call).run r').1.calm = true) :
    showing call r = showing call r' ∧ ((reply call).run r).2.Alike ((reply call).run r').2 := by
  obtain ⟨ho, hr⟩ := reply_concurs hd h hx hy
  refine ⟨?_, hr⟩
  rw [showing, showing, ho, film_eq h hx hy, hr.time_eq]
  simp only [Simulator.height, Simulator.velocity, hr.scene_eq]

theorem reply_unobserved {call : Call Float} (hd : call.drives = false) (rig : Rig Float) :
    ((reply call).run rig).2.simulator.unobserved = rig.simulator.unobserved := by
  rw [reply_state]
  cases call with
  | addObserver observer => cases observer <;> rfl
  | clearObservers => rfl
  | meanwhile change => rfl
  | _ => cases hd

/-- Moves that do not drive the simulator of the name leave it alone but for its observers. -/
theorem idle_make {move : Move} (hi : move.driving? = none) (hm : move.Spares name) :
    Leaves (fun s => (s.simulators.get? name).map Simulator.unobserved) (make name move) := by
  intro s
  cases move with
  | other request => exact congrArg _ (apart_perform hm s)
  | ask call =>
    have hd : call.drives = false := by
      rw [Move.driving?] at hi
      split at hi
      · cases hi
      · rename_i h
        simpa using h
    cases ha : s.simulators.get? name with
    | none => rw [make, run_atSimulator_none ha]
    | some simulator =>
      dsimp only
      rw [(ask_run ha call).2, ha, Option.map_some, reply_unobserved hd]
      rfl

theorem showing?_driving {move : Move} {call : Call Float} (hd : move.driving? = some call)
    (ha : s.simulators.get? name = some a) :
    s.showing? name move = some (showing call ⟨a, s.station⟩) := by
  rw [showing?, hd, ha]

theorem watch_cons {move : Move} (hc : ((make name move).run s).1.calm = true) (rest : List Move) :
    s.watch name (move :: rest) =
      (s.showing? name move).toList ++ ((make name move).run s).2.watch name rest := by
  rw [watch]
  rcases hr : (make name move).run s with ⟨_ | _ | _, t⟩
  · rfl
  · rfl
  · rw [hr] at hc
    cases hc

theorem undisturbed_cons {move : Move} {rest : List Move} (h : s.undisturbed name (move :: rest) = true) :
    ((make name move).run s).1.calm = true ∧ ((make name move).run s).2.undisturbed name rest = true :=
  Bool.and_eq_true_iff.mp h

/-- Nothing is shown by moves that do not drive the simulator of the name. -/
theorem watch_nil (hd : driving moves = []) (hu : s.undisturbed name moves = true) :
    s.watch name moves = [] := by
  induction moves generalizing s with
  | nil => rfl
  | cons move rest ih =>
    rw [driving, List.filterMap_cons] at hd
    split at hd
    · rename_i hi
      obtain ⟨hc, hrest⟩ := undisturbed_cons hu
      rw [watch_cons hc, ih hd hrest, showing?, hi]
      rfl
    · cases hd

/-- What is shown begins with the first call that bears on the motion. It is put to the simulator as it was
in the beginning, but for its observers. -/
theorem watch_driving {call : Call Float} {calls : List (Call Float)}
    (ha : s.simulators.get? name = some a) (hd : driving moves = call :: calls)
    (hm : ∀ move ∈ moves, move.Spares name) (hu : s.undisturbed name moves = true) :
    call.drives = true ∧ ∃ (rig : Rig Float) (t : Session) (rest : List Move),
      rig.simulator.unobserved = a.unobserved ∧
      ((reply call).run rig).1.calm = true ∧
      t.simulators.get? name = some ((reply call).run rig).2.simulator ∧
      driving rest = calls ∧ (∀ move ∈ rest, move.Spares name) ∧ t.undisturbed name rest = true ∧
      s.watch name moves = showing call rig :: t.watch name rest := by
  induction moves generalizing s a with
  | nil => cases hd
  | cons move rest ih =>
    obtain ⟨hs, hrest⟩ := List.forall_mem_cons.mp hm
    obtain ⟨hc, hn⟩ := undisturbed_cons hu
    rw [driving, List.filterMap_cons] at hd
    rw [watch_cons hc]
    split at hd
    · rename_i hi
      have hidle := idle_make hi hs s
      simp only [ha, Option.map_some] at hidle
      obtain ⟨b, hb, hab⟩ := Option.map_eq_some_iff.mp hidle
      obtain ⟨hdrives, rig, t, later, hrig, hcalm, ht, hdl, hsl, hul, hw⟩ := ih hb hd hrest hn
      refine ⟨hdrives, rig, t, later, hrig.trans hab, hcalm, ht, hdl, hsl, hul, ?_⟩
      rw [hw, showing?, hi]
      rfl
    · rename_i asked hi
      obtain ⟨rfl, htail⟩ := List.cons.inj hd
      obtain ⟨rfl, hdrives⟩ : move = .ask asked ∧ asked.drives = true := ask_of_driving hi
      obtain ⟨ho, hb⟩ := ask_run ha asked
      refine ⟨hdrives, ⟨a, s.station⟩, _, rest, rfl, ho ▸ hc, hb, htail, hrest, hn, ?_⟩
      rw [showing?_driving hi ha]
      rfl

/-- Simulators that are alike show the same in two sessions that ask the same of them. -/
theorem watch_alike {calls : List (Call Float)} (ha : s.simulators.get? name = some a)
    (hb : s'.simulators.get? name' = some b) (h : a.Alike b)
    (hm : ∀ move ∈ moves, move.Spares name) (hm' : ∀ move ∈ moves', move.Spares name')
    (hu : s.undisturbed name moves = true) (hu' : s'.undisturbed name' moves' = true)
    (hd : driving moves = calls) (hd' : driving moves' = calls) :
    s.watch name moves = s'.watch name' moves' ∧ (s.watch name moves).length = calls.length := by
  induction calls generalizing s s' a b moves moves' with
  | nil =>
    rw [watch_nil hd hu, watch_nil hd' hu']
    exact ⟨rfl, rfl⟩
  | cons call calls ih =>
    obtain ⟨hdrives, rig, t, rest, hrig, hc, ht, hdr, hsr, hur, hw⟩ := watch_driving ha hd hm hu
    obtain ⟨-, rig', t', rest', hrig', hc', ht', hdr', hsr', hur', hw'⟩ := watch_driving hb hd' hm' hu'
    have hr : rig.Alike rig' := h.of_unobserved hrig hrig'
    obtain ⟨hshow, hafter⟩ := showing_eq hdrives hr hc hc'
    obtain ⟨he, hl⟩ := ih ht ht' hafter hsr hsr' hur hur' hdr hdr'
    rw [hw, hw', hshow, he]
    refine ⟨rfl, ?_⟩
    rw [List.length_cons, List.length_cons, ← he, hl]

/-- A move leaves the setup of the simulator alone. -/
theorem make_setup {move : Move} (hm : move.Spares name) :
    Leaves (fun s => (s.simulators.get? name).map (·.setup)) (make name move) := by
  intro s
  cases move with
  | other request => exact congrArg _ (apart_perform hm s)
  | ask call =>
    cases ha : s.simulators.get? name with
    | none => rw [make, run_atSimulator_none ha]
    | some simulator =>
      dsimp only
      rw [(ask_run ha call).2, ha, Option.map_some, reply_state, Rig.answer_setup]
      rfl

theorem follow_setup (ha : s.simulators.get? name = some a) (hm : ∀ move ∈ moves, move.Spares name)
    (h : s.follow name moves = some t) : ∃ c, t.simulators.get? name = some c ∧ c.setup = a.setup := by
  have hk : (t.simulators.get? name).map (·.setup) = (s.simulators.get? name).map (·.setup) := by
    clear ha
    induction moves generalizing s with
    | nil =>
      cases h
      rfl
    | cons move rest ih =>
      obtain ⟨hs, hrest⟩ := List.forall_mem_cons.mp hm
      have hl := make_setup hs s
      rw [follow] at h
      rcases hr : (make name move).run s with ⟨_ | _ | _, u⟩ <;> rw [hr] at h hl
      · exact (ih hrest h).trans hl
      · exact (ih hrest h).trans hl
      · cases h
  rw [ha, Option.map_some] at hk
  exact Option.map_eq_some_iff.mp hk

/-- To set the scene and the time of one simulator makes another of the same setup like it. -/
theorem restart_alike {c : Simulator Float} (hc : t.simulators.get? name = some c) (hs : c.setup = a.setup)
    (hb : ∃ scene, a.setup.build = .ok scene) (hf : a.Settable)
    (hu : t.undisturbed name (restart a ++ moves) = true) :
    ∃ (u : Session) (d : Simulator Float), u.simulators.get? name = some d ∧ a.Alike d ∧
      u.undisturbed name moves = true ∧ (t.watch name (restart a ++ moves)).drop 2 = u.watch name moves := by
  obtain ⟨hc₁, hu₁⟩ := undisturbed_cons hu
  obtain ⟨hc₂, hu₂⟩ := undisturbed_cons hu₁
  have hd₁ := (ask_run hc (.adoptScene a.scene)).2
  have hd₂ := (ask_run hd₁ (.adoptTime a.time)).2
  refine ⟨_, _, hd₂, ?_, hu₂, ?_⟩
  · obtain ⟨scene, hscene⟩ := hb
    have hheight : Scalar.isFinite a.scene.sphere.height = true := hf.height_finite
    have hvelocity : Scalar.isFinite a.scene.sphere.velocity = true := hf.velocity_finite
    rw [reply_state, reply_state, Rig.answer, Rig.answer, Rig.adoptScene, Rig.adoptTime, hheight, hvelocity,
      hf.gravity_finite, hf.time_finite]
    refine ⟨rfl, rfl, ?_, ?_, ?_, ?_, scene, hscene, (congrArg SimulatorSetup.build hs).trans hscene⟩ <;>
      exact hs ▸ rfl
  · rw [restart, List.cons_append, List.cons_append, watch_cons hc₁, watch_cons hc₂,
      showing?_driving rfl hc, showing?_driving rfl hd₁]
    rfl

/-- What is shown of a simulator depends on its scene, its time, and the times and constants of its setup,
and on the calls that bear on the motion. Names, log settings, counts, observers, the log service, other
simulators and whatever is done with them in between have no part in it, as long as no sink complains. To go
back to a scene and a time later on is to see the same again. -/
theorem motion_follows_driving (ha : s.simulators.get? name = some a) (hb : s'.simulators.get? name' = some b)
    (h : a.Alike b) (hm : ∀ move ∈ moves, move.Spares name) (hm' : ∀ move ∈ moves', move.Spares name')
    (hu : s.undisturbed name moves = true) (hu' : s'.undisturbed name' moves' = true)
    (hd : driving moves = driving moves') :
    s.watch name moves = s'.watch name' moves' ∧ (s.watch name moves).length = (driving moves).length ∧
      ∀ past again t, (∀ move ∈ past ++ again, move.Spares name) → s.follow name past = some t →
        a.Settable → driving again = driving moves → t.undisturbed name (restart a ++ again) = true →
          (t.watch name (restart a ++ again)).drop 2 = s.watch name moves := by
  obtain ⟨he, hl⟩ := watch_alike ha hb h hm hm' hu hu' rfl hd.symm
  refine ⟨he, hl, fun past again t hall ht hf hagain hut => ?_⟩
  obtain ⟨hpast, hrest⟩ := List.forall_mem_append.mp hall
  obtain ⟨c, hc, hs⟩ := follow_setup ha hpast ht
  obtain ⟨scene, hscene, -⟩ := h.built
  obtain ⟨u, d, hud, had, huu, hw⟩ := restart_alike hc hs ⟨scene, hscene⟩ hf hut
  rw [hw]
  exact (watch_alike ha hud had hm hrest hu huu rfl hagain).1.symm

/-- A session with one simulator. -/
def housing (name : String) (rig : Rig Float) : Session :=
  { station := rig.station, simulators := ({} : Named (Simulator Float)).put name rig.simulator }

/-- Three ticks to go, with hardly anything logged. -/
def plainSetup : SimulatorSetup Float :=
  { SimulatorSetup.standard with finish := 0.03, logging := .hushed }

/-- The same motion under another name, with everything logged. -/
def chattySetup : SimulatorSetup Float :=
  { SimulatorSetup.standard with name := "chatty", finish := 0.03, logging := .verbose }

def plainMoves : List Move := [.ask (.step 0.01), .ask (.step (-1.0)), .ask .run, .ask .reset]

/-- An observer, a held log, a context and a second simulator that comes and goes. -/
def chattyMoves : List Move :=
  [.ask (.addObserver (some (.recording "heights"))),
    .other ⟨sharedService, "second", none, .pushContext ⟨"sphere", "elsewhere"⟩⟩,
    .ask (.step 0.01), .other ⟨sharedService, "second", none, .buffer true⟩,
    .other ⟨sharedService, "second", none, .newSimulator (.setup .standard)⟩,
    .ask (.step (-1.0)), .other ⟨sharedService, "second", none, .step none 2⟩, .ask .run,
    .other ⟨sharedService, "second", none, .destroy⟩, .ask .reset]

theorem chatty_motion_follows_driving :
    ∃ rig rig', Simulator.launched plainSetup {} = some rig ∧ Simulator.launched chattySetup {} = some rig' ∧
      rig.simulator.Alike rig'.simulator ∧
      (housing "a" rig).undisturbed "a" plainMoves = true ∧
      (housing "b" rig').undisturbed "b" chattyMoves = true ∧
      (housing "a" rig).watch "a" plainMoves = (housing "b" rig').watch "b" chattyMoves ∧
      ((housing "a" rig).watch "a" plainMoves).length = 4 := by
  have hp : (Simulator.launched plainSetup {}).any
      (fun rig => (housing "a" rig).undisturbed "a" plainMoves) = true := by decide +kernel
  have hc : (Simulator.launched chattySetup {}).any
      (fun rig => (housing "b" rig).undisturbed "b" chattyMoves) = true := by decide +kernel
  obtain ⟨rig, hr, hu⟩ := (Option.any_eq_true _ _).mp hp
  obtain ⟨rig', hr', hu'⟩ := (Option.any_eq_true _ _).mp hc
  have ha := Simulator.alike_of_create (Simulator.create_of_launched hr) (Simulator.create_of_launched hr')
    rfl rfl rfl rfl
  have hm : ∀ move ∈ plainMoves, move.Spares "a" := by
    simp [plainMoves, Move.Spares]
  have hm' : ∀ move ∈ chattyMoves, move.Spares "b" := by
    simp [chattyMoves, Move.Spares]
  obtain ⟨hw, hl, -⟩ := motion_follows_driving (Named.get?_put_self _ _ _) (Named.get?_put_self _ _ _) ha hm hm'
    hu hu' rfl
  exact ⟨rig, rig', hr, hr', ha, hu, hu', hw, hl⟩

end Session
end Flotation
