import Flotation.Proofs.Session.Moves
import Flotation.Proofs.Session.Registration
import Flotation.Proofs.Simulator.LogActs

/-! The acts of a session: what each request does to the log service of a name, and what all of them have done to
it in the end. -/
namespace Flotation.Session
open Flotation.Action

/-- The acts as the service of a name has them, if they are done to a service of some name. -/
def addressed (service name : String) (acts : List Act) : List Act := if service = name then acts else []

/-- A sink that cannot be opened is not added. -/
def attachActs (choice : SinkChoice) (threshold : Level) (st : Station) : List Act :=
  match (attachSink choice threshold).run st with
  | (.returned (), _) => [.attachSink choice.sink threshold]
  | _ => []

/-- What is done to the log by way of a simulator, if there is one of the name. -/
def simulatorActs (s : Session) (name : String) (acts : Rig Float → List Act) : List Act :=
  match s.simulators.get? name with
  | none => []
  | some simulator => acts ⟨simulator, s.station⟩

/-- A simulator that takes the name of another is made before the other is taken down. -/
def newSimulatorActs (s : Session) (name : String) (setup : SimulatorSetup Float) : List Act :=
  Simulator.createActs setup s.station ++
    match (Simulator.create setup).run s.station, s.simulators.get? name with
    | (.returned _, made), some _ => made.service.takedown
    | _, _ => []

/-- What it does to the service of a name if the latest scope is closed. -/
def closeScopeActs (name : String) (s : Session) : List Act :=
  match s.scopes with
  | [] => []
  | (service, before) :: _ => addressed service name ((s.service service).scopeClosing before)

/-- What a request does to the service of a name. -/
def acts (name : String) (s : Session) (r : Request) : List Act :=
  let own := addressed r.service name
  let shared := addressed sharedService name
  match r.command with
  | .log level time message context => own [.log ⟨level, time, message, context.getD s.station.context⟩]
  | .buffer buffering => own [.buffer buffering]
  | .setThreshold level => own [.setThreshold level]
  | .attachSink choice threshold => own (attachActs choice threshold (stationFor r.service s))
  | .detachSinks => own [.detachSinks]
  | .flush => own [.flush]
  | .dropHeld => own [.dropHeld]
  | .newLedger => own [.newLedger]
  | .openScope => own [.buffer true]
  | .closeScope => s.closeScopeActs name
  | .report fault time component | .reject fault time component =>
    shared [.log (fault.entry time component s.station.context)]
  | .newSimulator blueprint =>
    match blueprint.read with
    | .ok setup => shared (s.newSimulatorActs r.simulator setup)
    | .error _ => []
  | .destroy => shared (s.simulatorActs r.simulator fun rig => rig.station.service.takedown)
  | .step none times =>
    shared (s.simulatorActs r.simulator (Rig.seriesActs Rig.stepNominal Rig.nominalActs times))
  | .step (some elapsed) times =>
    shared (s.simulatorActs r.simulator (Rig.seriesActs (Rig.step elapsed) (Rig.stepActs elapsed) times))
  | .run => shared (s.simulatorActs r.simulator Rig.runActs)
  | .reset => shared (s.simulatorActs r.simulator Rig.resetActs)
  | _ => []

/-- What some requests do to the service of a name, one after the other, up to one that aborts the program. -/
def course (name : String) (s : Session) : List Request → List Act
  | [] => []
  | r :: rest =>
    s.acts name r ++
      match (perform r).run s with
      | (.aborted, _) => []
      | (_, t) => t.course name rest

/-- The session has gone on to another, its service of the name by these acts. -/
abbrev Undergoes (name : String) (acts : List Act) (s t : Session) : Prop :=
  Station.Undergoes acts (stationFor name s) (stationFor name t)

variable {name service : String} {acts : List Act} {s t : Session}

/-- What is done to the station is done to the shared service and to no other. -/
theorem undergoes_of_station (h : s.station.Undergoes acts t.station) (hs : t.services = s.services) :
    s.Undergoes name (addressed sharedService name acts) t := by
  by_cases hn : sharedService = name
  · rw [addressed, if_pos hn]
    have he (u : Session) : (stationFor name u).service = u.station.service := if_pos hn.symm
    exact ⟨by rw [he, he, h.service_eq], h.serials_le, h.serves⟩
  · rw [addressed, if_neg hn]
    refine ⟨?_, h.serials_le, List.forall_mem_nil _⟩
    have he (u : Session) : (stationFor name u).service = (u.services.get? name).getD {} :=
      if_neg fun hc => hn hc.symm
    rw [he, he, hs]
    rfl

theorem undergoes_idle (h : s.station.Undergoes [] t.station) (hs : t.services = s.services) :
    s.Undergoes name [] t := by
  have hu : s.Undergoes name _ t := undergoes_of_station h hs
  rwa [addressed, ite_self] at hu

theorem undergoes_settle {st : Station} (h : (stationFor service s).Undergoes acts st) :
    s.Undergoes name (addressed service name acts) (settle service st s) := by
  have hn : s.station.serials ≤ (settle service st s).station.serials := by
    rw [serials_settle]
    exact h.serials_le
  by_cases hs : service = name
  · subst hs
    rw [addressed, if_pos rfl]
    have he : (stationFor service (settle service st s)).serials = st.serials := serials_settle service st s
    refine ⟨(service_settle service st s).trans h.service_eq, hn, ?_⟩
    rw [he]
    exact h.serves
  · rw [addressed, if_neg hs]
    exact ⟨service_settle_of_ne (Ne.symm hs) st s, hn, List.forall_mem_nil _⟩

theorem undergoes_simulator {x : Action (Rig Float) Answer} {does : Rig Float → List Act}
    (h : ∀ rig : Rig Float, rig.station.Undergoes (does rig) (x.run rig).2.station) (simulator : String) :
    s.Undergoes name (addressed sharedService name (s.simulatorActs simulator does))
      ((atSimulator simulator x).run s).2 := by
  rw [simulatorActs]
  cases hg : s.simulators.get? simulator with
  | none =>
    rw [run_atSimulator_none hg, addressed, ite_self]
    exact .refl _
  | some a =>
    rw [run_atSimulator hg]
    exact undergoes_of_station (h ⟨a, s.station⟩) rfl

/-- What leaves the station of a simulator alone does nothing to any service. -/
theorem undergoes_simulator_idle {x : Action (Rig Float) Answer} (h : Leaves Rig.station x)
    (simulator : String) : s.Undergoes name [] ((atSimulator simulator x).run s).2 := by
  cases hg : s.simulators.get? simulator with
  | none =>
    rw [run_atSimulator_none hg]
    exact .refl _
  | some a =>
    have hst : (x.run ⟨a, s.station⟩).2.station = s.station := h ⟨a, s.station⟩
    rw [run_atSimulator hg, hst]
    exact .refl _

theorem keeps_adoptScene (scene : Scene Float) : Keeps Rig.station (Rig.adoptScene scene) := by
  rw [Rig.adoptScene]
  split
  · exact .raise _
  · split
    · exact .raise _
    · exact .update fun _ => rfl

theorem keeps_adoptTime (time : Float) : Keeps Rig.station (Rig.adoptTime time) := by
  rw [Rig.adoptTime]
  split
  · exact .update fun _ => rfl
  · exact .raise _

theorem keeps_changeScene (change : SceneChange) : Keeps Rig.station (adoptScene change) := by
  refine .bind (.read _) fun simulator => .bind ?_ keeps_adoptScene
  cases changed simulator.scene change with
  | error fault => exact .raise _
  | ok scene => exact .pure _

theorem keeps_addObserver (observer : Option (HeightSink Float)) :
    Keeps Rig.station (Rig.addObserver observer) := by
  cases observer with
  | none => exact .raise _
  | some sink => exact .update fun _ => rfl

theorem attachSink_undergoes (choice : SinkChoice) (threshold : Level) (st : Station) :
    st.Undergoes (attachActs choice threshold st) ((attachSink choice threshold).run st).2 := by
  rw [attachActs]
  rcases attachSink_cases choice threshold st with ⟨failure, hr⟩ | ⟨outlets, hr⟩
  · rw [hr]
    exact .refl st
  · have hs (serial : Nat) : ¬(Act.attachSink choice.sink threshold).Serves serial := by
      cases choice <;> simp [Act.Serves, SinkChoice.sink, Sink.into, Sink.failing]
    rw [hr]
    exact .single rfl rfl hs

theorem newSimulator_undergoes (s : Session) (name : String) (setup : SimulatorSetup Float) :
    s.station.Undergoes (s.newSimulatorActs name setup) ((newSimulator name (.setup setup)).run s).2.station ∧
      ((newSimulator name (.setup setup)).run s).2.services = s.services := by
  have hu := Simulator.create_undergoes setup s.station
  rw [newSimulatorActs]
  rcases hr : (Simulator.create setup).run s.station with ⟨new | failure | _, made⟩ <;> rw [hr] at hu
  · cases hg : s.simulators.get? name with
    | none =>
      rw [newSimulator_run hg hr, List.append_nil]
      exact ⟨hu, rfl⟩
    | some old =>
      rw [newSimulator_run_taken hg hr rfl]
      exact ⟨hu.trans (old.destroy_undergoes made), rfl⟩
  · rw [newSimulator_raised hr, List.append_nil]
    exact ⟨hu, rfl⟩
  · rw [newSimulator, Blueprint.read, Action.ofExcept, pure_bind, run_bind_aborted (run_atStation hr), List.append_nil]
    exact ⟨hu, rfl⟩

theorem destroy_undergoes (s : Session) (name : String) :
    s.station.Undergoes (s.simulatorActs name fun rig => rig.station.service.takedown)
        ((destroy name).run s).2.station ∧
      ((destroy name).run s).2.services = s.services := by
  rw [simulatorActs]
  cases hg : s.simulators.get? name with
  | none =>
    rw [takeDown_run_none hg]
    exact ⟨.refl _, rfl⟩
  | some old =>
    rw [takeDown_run hg rfl]
    exact ⟨old.destroy_undergoes s.station, rfl⟩

theorem closeScope_undergoes (s : Session) : s.Undergoes name (s.closeScopeActs name) (closeScope.run s).2 := by
  rw [closeScope, run_bind_returned (run_read _ s), closeScopeActs]
  rcases s.scopes with _ | ⟨⟨service, before⟩, scopes⟩
  · exact .refl _
  · dsimp only
    have hn : ((pure () : Action Session Unit).run { s with scopes }).1 ≠ .aborted := by simp
    rw [run_bind_returned (run_update _ s), closing_leaves hn]
    have hu := Station.closeScope_undergoes before (stationFor service { s with scopes })
    exact (undergoes_settle hu : Undergoes name _ { s with scopes } _)

/-- A request does to the services what its acts say, however it ends. -/
theorem perform_undergoes (name : String) (s : Session) (r : Request) :
    s.Undergoes name (s.acts name r) ((perform r).run s).2 := by
  obtain ⟨service, simulator, console, command⟩ := r
  cases command with
  | log level time message context =>
    rw [log_run, quietly_state]
    exact undergoes_settle (Station.undergoes_logEntry _ _)
  | buffer | setThreshold | detachSinks | dropHeld | newLedger =>
    rw [perform, quietly_state]
    exact undergoes_settle (.single rfl rfl fun _ => id)
  | attachSink choice threshold =>
    rw [perform, quietly_state]
    exact undergoes_settle (attachSink_undergoes choice threshold _)
  | flush =>
    rw [perform, quietly_state]
    exact undergoes_settle (Station.undergoes_flush _)
  | openScope =>
    have hu : (stationFor service s).Undergoes [.buffer true]
        { stationFor service s with service := (s.service service).buffer true } :=
      .single rfl rfl fun _ => id
    exact undergoes_settle hu
  | closeScope =>
    rw [perform, quietly_state]
    exact closeScope_undergoes s
  | report fault time component =>
    rw [perform, quietly_state]
    exact undergoes_of_station (Station.report_undergoes fault time component s.station).1 rfl
  | reject fault time component =>
    rw [perform, quietly_state]
    exact undergoes_of_station (Station.reject_undergoes fault time component s.station).1 rfl
  | newSimulator blueprint =>
    rw [perform, quietly_state, acts]
    dsimp only
    cases hb : blueprint.read with
    | error fault =>
      rw [newSimulator_unread hb]
      exact .refl _
    | ok setup =>
      obtain ⟨hu, hs⟩ := newSimulator_undergoes s simulator setup
      rw [newSimulator_read hb]
      exact undergoes_of_station hu hs
  | destroy =>
    rw [perform, quietly_state]
    obtain ⟨hu, hs⟩ := destroy_undergoes s simulator
    exact undergoes_of_station hu hs
  | step elapsed times =>
    cases elapsed with
    | none =>
      rw [perform]
      refine undergoes_simulator (fun rig => ?_) simulator
      rw [quietly, state_bind_pure]
      exact (Rig.series_undergoes Rig.nominal_undergoes times rig).1
    | some elapsed =>
      refine undergoes_simulator (fun rig => ?_) simulator
      rw [quietly, state_bind_pure]
      exact (Rig.series_undergoes (Rig.step_undergoes elapsed) times rig).1
  | run =>
    refine undergoes_simulator (fun rig => ?_) simulator
    rw [state_bind_pure]
    exact rig.run_undergoes
  | reset =>
    refine undergoes_simulator (fun rig => ?_) simulator
    rw [quietly, state_bind_pure]
    exact rig.reset_undergoes
  | describe => exact undergoes_simulator_idle (.read _) simulator
  | adoptTime time => exact undergoes_simulator_idle (.bind (keeps_adoptTime time).leaves fun _ => .pure _) simulator
  | adoptScene change =>
    exact undergoes_simulator_idle (.bind (keeps_changeScene change).leaves fun _ => .pure _) simulator
  | addObserver observer =>
    exact undergoes_simulator_idle (.bind (keeps_addObserver observer).leaves fun _ => .pure _) simulator
  | clearObservers =>
    have hl : Leaves Rig.station (Rig.clearObservers : Action (Rig Float) Unit) := .update fun _ => rfl
    exact undergoes_simulator_idle (.bind hl fun _ => .pure _) simulator
  | restore snapshot =>
    change s.Undergoes name [] ((restore simulator snapshot).run s).2
    rw [restore, run_bind_returned (run_read _ s)]
    cases s.snapshots.get? snapshot with
    | none => exact .refl _
    | some scene =>
      exact undergoes_simulator_idle (.bind (keeps_adoptScene scene).leaves fun _ => .pure _) simulator
  | save snapshot =>
    rw [perform, quietly_state, save, run_update]
    split
    · exact .refl _
    · exact undergoes_idle (.refl _) rfl
  | popContext =>
    have hp : ((perform ⟨service, simulator, console, .popContext⟩).run s).2 = (popContext.run s).2 := by
      rw [perform, run_bind]
      rcases popContext.run s with ⟨_ | _ | _, t⟩ <;> rfl
    rw [hp, popContext, run_bind_returned (run_read _ s)]
    cases s.contexts with
    | nil => exact .refl _
    | cons before contexts => exact undergoes_idle (.of_service_eq rfl rfl) rfl
  | newConsole | setColours | setConsoleLevel | consoleLog | consoleLine | placeFile | pushContext =>
    exact undergoes_idle (.of_service_eq rfl rfl) rfl
  | inspect | showPending | showContext | paint | render | showFile => exact .refl _

theorem course_cons {r : Request} (h : ((perform r).run s).1 ≠ .aborted) (rest : List Request) :
    s.course name (r :: rest) = s.acts name r ++ ((perform r).run s).2.course name rest := by
  rw [course]
  rcases hr : (perform r).run s with ⟨_ | _ | _, u⟩
  · rfl
  · rfl
  · rw [hr] at h
    exact absurd rfl h

theorem not_aborted_of_after {r : Request} {rest : List Request} (h : s.after (r :: rest) = some t) :
    ((perform r).run s).1 ≠ .aborted := by
  intro ha
  rw [after] at h
  rcases hr : (perform r).run s with ⟨_ | _ | _, u⟩ <;> rw [hr] at h ha
  · cases ha
  · cases ha
  · cases h

/-- The service of a name after some requests is made of what they did to it. -/
theorem after_undergoes (name : String) {requests : List Request} (h : s.after requests = some t) :
    s.Undergoes name (s.course name requests) t := by
  induction requests generalizing s with
  | nil =>
    cases h
    exact .refl _
  | cons r rest ih =>
    have hn := not_aborted_of_after h
    rw [after_cons hn] at h
    rw [course_cons hn]
    exact (perform_undergoes name s r).trans (ih h)

theorem course_append {earlier : List Request} (h : s.after earlier = some t) (later : List Request) :
    s.course name (earlier ++ later) = s.course name earlier ++ t.course name later := by
  induction earlier generalizing s with
  | nil =>
    cases h
    rfl
  | cons r rest ih =>
    have hn := not_aborted_of_after h
    rw [after_cons hn] at h
    rw [List.cons_append, course_cons hn, course_cons hn, ih h, List.append_assoc]

/-- A sink for the console of a simulator is not put up again later on, even in a course that ends the
program. -/
theorem serials_le_of_course {requests : List Request} {act : Act} {serial : Nat}
    (h : act ∈ s.course name requests) (hs : act.Serves serial) : s.station.serials ≤ serial := by
  induction requests generalizing s with
  | nil => cases h
  | cons r rest ih =>
    have hu := perform_undergoes name s r
    rw [course, List.mem_append] at h
    rcases h with h | h
    · exact (hu.serves act h serial hs).1
    · have hle : s.station.serials ≤ ((perform r).run s).2.station.serials := hu.serials_le
      rcases hr : (perform r).run s with ⟨_ | _ | _, u⟩ <;> rw [hr] at h hle
      · exact Nat.le_trans hle (ih h)
      · exact Nat.le_trans hle (ih h)
      · cases h

end Flotation.Session
