import Flotation.Proofs.Session.Moves
import Flotation.Proofs.Simulator.Telling
import Flotation.Proofs.Simulator.Transcript

/-! Outputs. What stands on the standard output and in the log file is told from the levels of the two and
from what is logged, however the log gets there. -/
namespace Flotation
open Flotation.Action Station

/-- The simulator is asked to step, to run or to reset, or an entry is logged at the shared service. -/
inductive Move.Logs : Move → Prop
  | step (elapsed : Float) : Logs (.ask (.step elapsed))
  | stepNominal : Logs (.ask .stepNominal)
  | run : Logs (.ask .run)
  | reset : Logs (.ask .reset)
  | log (simulator : String) (console : Option String) (level : Level) (time : Float) (message : String)
      (context : Option Context) :
      Logs (.other ⟨Session.sharedService, simulator, console, .log level time message context⟩)

/-- What a call is to log under some context, told from the motion and the setup of the simulator. -/
def Simulator.logged (context : Context) (s : Simulator Float) : Call Float → List Entry
  | .step elapsed => s.motion.stepEntries context elapsed
  | .stepNominal => s.motion.stepEntries context s.setup.tickLength
  | .run => if s.hasTimeLeft then s.runEntries context else []
  | .reset => [s.resetEntry context]
  | _ => []

namespace Session

/-- What a move is to log, whatever becomes of it. -/
def logged (name : String) (s : Session) : Move → List Entry
  | .ask call =>
    match s.simulators.get? name with
    | none => []
    | some a => a.logged s.station.context call
  | .other request =>
    match request.command with
    | .log level time message context => [⟨level, time, message, context.getD s.station.context⟩]
    | _ => []

/-- All that is to be logged in the course of some moves, up to one that aborts the program. -/
def told (name : String) (s : Session) : List Move → List Entry
  | [] => []
  | move :: rest =>
    s.logged name move ++
      match (make name move).run s with
      | (.aborted, _) => []
      | (_, t) => t.told name rest

/-- Nobody observes the simulator of the name, its setup is the given one, and a diary is kept of what it logs. -/
structure Attended (P : List Entry → Station → Prop) (name : String) (setup : SimulatorSetup Float)
    (entries : List Entry) (s : Session) : Prop where
  diary : P entries s.station
  buffering_eq : s.station.service.buffering = false
  simulator : ∃ a, s.simulators.get? name = some a ∧ a.setup = setup ∧ a.observers = []

variable {P : List Entry → Station → Prop} {name : String} {setup : SimulatorSetup Float} {scene : Scene Float}
  {entries : List Entry} {s : Session} {move : Move} {moves : List Move}

theorem told_cons (h : ((make name move).run s).1 ≠ .aborted) (rest : List Move) :
    s.told name (move :: rest) = s.logged name move ++ ((make name move).run s).2.told name rest := by
  rw [told]
  rcases hr : (make name move).run s with ⟨_ | _ | _, t⟩
  · rfl
  · rfl
  · rw [hr] at h
    exact absurd rfl h

theorem reply_tells (rig : Rig Float) (hP : Diary P) (h : P entries rig.station)
    (ho : rig.simulator.observers = []) (hb : rig.simulator.setup.build = .ok scene) {call : Call Float}
    (hc : (Move.ask call).Logs) :
    ∃ m, Rig.Tells P (entries ++ rig.simulator.logged rig.station.context call) m rig
      ((reply call).run rig) := by
  cases hc with
  | step elapsed => exact ⟨_, (Rig.step_tells hP h elapsed).bind_pure _⟩
  | stepNominal => exact ⟨_, (Rig.step_tells hP h rig.simulator.setup.tickLength).bind_pure _⟩
  | run =>
    rw [Simulator.logged]
    split_ifs with hl
    · obtain ⟨m, ht⟩ := Rig.run_tells_all hP h hl ho (tickProblem?_of_build hb)
      exact ⟨m, ht.bind_pure _⟩
    · refine ⟨rig.simulator.motion, .bind_pure ?_ _⟩
      rw [Rig.run_idle hl, List.append_nil]
      exact .refl h 0
  | reset => exact ⟨_, (Rig.reset_tells hP h hb).1.bind_pure _⟩

theorem ask_attended (hP : Diary P) (hb : setup.build = .ok scene) (h : Attended P name setup entries s)
    {call : Call Float} (hc : (Move.ask call).Logs) :
    ((make name (.ask call)).run s).1 ≠ .aborted ∧
      Attended P name setup (entries ++ s.logged name (.ask call)) ((make name (.ask call)).run s).2 := by
  obtain ⟨hp, hbuf, a, ha, rfl, ho⟩ := h
  obtain ⟨m, ht⟩ := reply_tells ⟨a, s.station⟩ hP hp ho hb hc
  rw [logged, ha, make, run_atSimulator ha]
  refine ⟨ht.not_aborted, ht.keeping.diary, ht.keeping.buffering_eq.trans hbuf, _, ?_, ht.setup_eq,
    (ht.calm ho).2⟩
  exact Named.get?_put_self _ _ _

theorem log_attended (hP : Diary P) (h : Attended P name setup entries s) (simulator : String)
    (console : Option String) (level : Level) (time : Float) (message : String) (context : Option Context) :
    ∃ t, (perform ⟨sharedService, simulator, console, .log level time message context⟩).run s =
        (.returned .nothing, t) ∧
      Attended P name setup (entries ++ [⟨level, time, message, context.getD s.station.context⟩]) t := by
  obtain ⟨hp, hbuf, hsimulator⟩ := h
  obtain ⟨st, hr, hk⟩ := hP.logEntry hp ⟨level, time, message, context.getD s.station.context⟩
  refine ⟨{ s with station := st }, ?_, hk.diary, hk.buffering_eq.trans hbuf, hsimulator⟩
  rw [log_run, atService_shared]
  exact quietly_returned (run_atStation hr)

/-- What a move is to log is noted in the diary, and the simulator can be asked again. -/
theorem make_attended (hP : Diary P) (hb : setup.build = .ok scene) (h : Attended P name setup entries s)
    (hm : move.Logs) :
    ((make name move).run s).1 ≠ .aborted ∧
      Attended P name setup (entries ++ s.logged name move) ((make name move).run s).2 := by
  cases move with
  | ask call => exact ask_attended hP hb h hm
  | other request =>
    cases hm with
    | log simulator console level time message context =>
      obtain ⟨t, hr, ht⟩ := log_attended hP h simulator console level time message context
      rw [make, hr]
      exact ⟨by simp, ht⟩

theorem follow_attended (hP : Diary P) (hb : setup.build = .ok scene) (h : Attended P name setup entries s)
    (hm : ∀ move ∈ moves, move.Logs) :
    ∃ t, s.follow name moves = some t ∧ Attended P name setup (entries ++ s.told name moves) t := by
  induction moves generalizing s entries with
  | nil => exact ⟨s, rfl, by rwa [told, List.append_nil]⟩
  | cons move rest ih =>
    obtain ⟨hfirst, hrest⟩ := List.forall_mem_cons.mp hm
    obtain ⟨hn, hnext⟩ := make_attended hP hb h hfirst
    obtain ⟨t, ht, hend⟩ := ih hnext hrest
    rw [List.append_assoc] at hend
    rw [follow_cons hn, told_cons hn]
    exact ⟨t, ht, hend⟩

/-- A simulator whose log file, if it has one, can be opened is made at a shared service that is neither
buffering nor holding anything, and is then asked to step, to run or to reset, with entries logged in between. What
it and they are to log, beginning with its own announcement, then stands on the standard output as far as it reaches
the level of the console, and, if that is enabled, at the end of the log file as far as it reaches the level of the
file: in order, a line for each entry. The service accepts just the levels that one of the two asks for, and equal
levels get the same text. -/
theorem outputs_follow_levels {s : Session} {name : String} {setup : SimulatorSetup Float} {scene : Scene Float}
    {moves : List Move} (hn : s.simulators.get? name = none) (hs : setup.build = .ok scene)
    (ho : setup.logging.fileEnabled = true →
      s.station.outlets.directory.opens setup.logging.filePath = true)
    (hb : s.station.service.buffering = false) (hh : s.station.service.held = [])
    (hm : ∀ move ∈ moves, move.Logs) :
    ∃ made t, (newSimulator name (.setup setup)).run s = (.returned (), made) ∧
      made.follow name moves = some t ∧
      let logged := Simulator.readyEntry setup scene s.station.context :: made.told name moves
      let before := s.station.outlets
      let after := t.station.outlets
      after.standard = before.standard ++ transcript setup.logging.consoleLevel logged ∧
        (setup.logging.fileEnabled = true →
          after.directory.contents? setup.logging.filePath =
            some ((before.directory.contents? setup.logging.filePath).getD "" ++
              transcript setup.logging.fileLevel logged)) ∧
        (∀ level, t.station.service.accepts level = true ↔ setup.logging.consoleLevel ≤ level ∨
          setup.logging.fileEnabled = true ∧ setup.logging.fileLevel ≤ level) ∧
        (setup.logging.fileEnabled = true → setup.logging.consoleLevel = setup.logging.fileLevel →
          ∃ text, after.standard = before.standard ++ text ∧
            after.directory.contents? setup.logging.filePath =
              some ((before.directory.contents? setup.logging.filePath).getD "" ++ text)) := by
  obtain ⟨st, hcreate, hbuf, hstart⟩ := Simulator.create_transcribed hs ho hb hh
  let new : Simulator Float := ⟨setup, scene, setup.start, 0, [], none, s.station.serials⟩
  have hmade := newSimulator_run hn hcreate
  have hattended : Attended _ name setup [Simulator.readyEntry setup scene s.station.context]
      { s with station := st, simulators := s.simulators.put name new } :=
    ⟨hstart, hbuf, new, Named.get?_put_self _ _ _, rfl, rfl⟩
  obtain ⟨t, ht, hend⟩ := follow_attended (Transcribed.diary _ _ _ _) hs hattended hm
  have hshows := hend.diary.settled hend.buffering_eq
  refine ⟨_, t, hmade, ht, hshows.standard_eq, hshows.file_eq, fun level => ?_, fun he hl => ?_⟩
  · rw [Service.accepts, hend.diary.threshold_eq, decide_eq_true_iff]
    exact LogSettings.lowestLevel_le_iff
  · exact ⟨_, hshows.standard_eq, hl ▸ hshows.file_eq he⟩

/-- A prompt on the standard output, and a log file that is not empty. It is the one file that may be added to, and
it is in another directory. -/
def prompted : Session where
  station := { outlets := { standard := "$ ", directory := {
    files := ({} : Named String).put "/tmp/run.log" "before\n"
    locate := some
    writable := fun name => name == "/tmp/run.log" } } }

/-- Events and worse for the console, heights too for the file. -/
def levelledSetup : SimulatorSetup Float :=
  { SimulatorSetup.standard with
    finish := 0.52
    logging := { consoleLevel := .event, fileEnabled := true, filePath := "/tmp/run.log", fileLevel := .debug } }

def levelledMoves : List Move :=
  [.ask (.step 0.5), .ask (.step (-1.0)),
    .other ⟨sharedService, "main", none, .log .trace 0.5 "for neither" none⟩, .ask .run, .ask .reset]

theorem levelled_outputs :
    prompted.simulators.get? "main" = none ∧ prompted.station.service.buffering = false ∧
      prompted.station.service.held = [] ∧
      prompted.station.outlets.directory.opens levelledSetup.logging.filePath = true ∧
      (∀ move ∈ levelledMoves, move.Logs) ∧
      ∃ scene made t, levelledSetup.build = .ok scene ∧
        (newSimulator "main" (.setup levelledSetup)).run prompted = (.returned (), made) ∧
        made.follow "main" levelledMoves = some t ∧
        let logged := Simulator.readyEntry levelledSetup scene {} :: made.told "main" levelledMoves
        t.station.outlets.standard = "$ " ++ transcript .event logged ∧
          t.station.outlets.directory.contents? "/tmp/run.log" = some ("before\n" ++ transcript .debug logged) := by
  have hbuild : levelledSetup.build.toOption.isSome = true := by decide +kernel
  have hm : ∀ move ∈ levelledMoves, move.Logs := by
    simp only [levelledMoves, List.forall_mem_cons]
    exact ⟨.step _, .step _, .log _ _ _ _ _ _, .run, .reset, List.forall_mem_nil _⟩
  have hn : prompted.simulators.get? "main" = none := rfl
  cases hs : levelledSetup.build with
  | error fault =>
    rw [hs] at hbuild
    cases hbuild
  | ok scene =>
    have ho : prompted.station.outlets.directory.opens levelledSetup.logging.filePath = true := by
      decide +kernel
    obtain ⟨made, t, hmade, ht, hstandard, hfile, -⟩ :=
      outputs_follow_levels hn hs (fun _ => ho) rfl rfl hm
    have hbefore : prompted.station.outlets.directory.contents? levelledSetup.logging.filePath =
        some "before\n" := by
      decide +kernel
    rw [hbefore] at hfile
    exact ⟨hn, rfl, rfl, ho, hm, scene, made, t, rfl, hmade, ht, hstandard, hfile rfl⟩

end Session
end Flotation
