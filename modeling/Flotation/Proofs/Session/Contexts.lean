import Flotation.Proofs.Session.LogActs

/-! The context in force: what leaves it alone, and which context an entry gets that is logged under it. -/
namespace Flotation
open Flotation.Action

/-- The context of an entry that a simulator logs at a level. What it says of itself is told for information,
under the context that it finds. A rejection is an error and keeps the entity. All else is told of ticks, and they
have a context of their own. -/
def Simulator.contextAt (context : Context) : Level → Context
  | .info => context
  | .error => ⟨context.entity, Simulator.component⟩
  | _ => Simulator.tickContext

namespace Command

/-- The context in force is changed. -/
def shifts : Command → Bool
  | .pushContext _ | .popContext => true
  | _ => false

/-- A scope may be closed, or a simulator taken down: if what is held cannot be delivered then, the program is
aborted. -/
def closes : Command → Bool
  | .closeScope | .newSimulator _ | .destroy | .run => true
  | _ => false

/-- The context of an entry that the command logs at a level when it is given under a context. A message gets the
context given for it, or else the one in force. A fault that is reported keeps the entity. -/
def contextAt (context : Context) (level : Level) : Command → Context
  | .log _ _ _ given => given.getD context
  | .report fault _ component | .reject fault _ component =>
    ⟨context.entity, if component.isEmpty then fault.category else component⟩
  | _ => Simulator.contextAt context level

end Command

/-- Whatever the act logs has the context for its level. -/
def Act.Under (contexts : Level → Context) : Act → Prop
  | .log entry => entry.context = contexts entry.level
  | _ => True

namespace Service
variable {s : Service} {contexts : Level → Context}

theorem mem_of_mem_logging {entries : List Entry} {entry : Entry} (h : entry ∈ s.logging entries) :
    entry ∈ entries := by
  induction entries generalizing s with
  | nil => cases h
  | cons first rest ih =>
    rw [logging, List.mem_cons] at h
    rcases h with rfl | h
    · exact List.mem_cons_self
    · split_ifs at h
      · cases h
      · exact List.mem_cons_of_mem _ (ih h)

theorem scopeClosing_under (before : Bool) : ∀ act ∈ s.scopeClosing before, act.Under contexts := by
  rw [scopeClosing]
  split_ifs
  · exact List.forall_mem_singleton.mpr trivial
  · exact List.forall_mem_cons.mpr ⟨trivial, List.forall_mem_singleton.mpr trivial⟩

theorem takedown_under : ∀ act ∈ s.takedown, act.Under contexts := by
  rw [takedown]
  split_ifs
  · exact List.forall_mem_singleton.mpr trivial
  · exact List.forall_mem_cons.mpr ⟨trivial, List.forall_mem_singleton.mpr trivial⟩

end Service

namespace Station

/-- The context in force is kept, and the program goes on. -/
abbrev Steady {β : Type} (x : Action Station β) : Prop := Keeps Station.context x

/-- The context in force is kept, however the action ends. -/
abbrev Recovers {β : Type} (x : Action Station β) : Prop := Leaves Station.context x

theorem steady_of_standing {β : Type} {x : Action Station β} (h : Keeps standing x) : Steady x :=
  h.mono fun view => view.1

theorem steady_logEntry (entry : Entry) : Steady (logEntry entry) := steady_of_standing (keeps_logEntry entry)

theorem steady_flush : Steady flush := steady_of_standing keeps_flush

theorem steady_report (fault : Fault) (time : Float) (component : String) : Steady (report fault time component) :=
  .bind (.read _) fun _ => steady_logEntry _

theorem steady_onService (f : Service → Service) : Steady (onService f) := .update fun _ => rfl

theorem steady_onOutlets (f : Outlets → Outlets) : Steady (onOutlets f) := .update fun _ => rfl

theorem steady_openLog (path : String) : Steady (openLog path) := by
  refine .bind (.read _) fun outlets => ?_
  cases outlets.directory.openAppend? path with
  | none => exact .raise _
  | some directory => exact steady_onOutlets _

theorem steady_openScope : Steady openScope :=
  .bind (.read _) fun _ => .bind (steady_onService _) fun _ => .pure _

theorem steady_closeScope (before : Bool) : Steady (closeScope before) :=
  .bind steady_flush fun _ => steady_onService _

end Station

namespace Simulator
variable {α : Type} [Scalar α]

theorem steady_takeOver (settings : LogSettings) : Station.Steady (takeOver settings) := by
  have hrest : Station.Steady (do
      let serial ← Action.read Station.serials
      let console := consoleId serial
      Action.update fun st : Station => { st with serials := serial + 1 }
      Station.onOutlets (·.addConsole console ⟨{ level := settings.consoleLevel }, true, ""⟩)
      Station.onService (served settings console)
      return serial) :=
    .bind (.read _) fun _ => .bind (.update fun _ => rfl) fun _ => .bind (Station.steady_onOutlets _) fun _ =>
      .bind (Station.steady_onService _) fun _ => .pure _
  rw [takeOver]
  split
  · exact .bind (Station.steady_openLog _) fun _ => hrest
  · exact hrest

theorem steady_create (setup : SimulatorSetup α) : Station.Steady (create setup) := by
  refine .bind ?_ fun scene => .bind (steady_takeOver _) fun serial => ?_
  · cases setup.build with
    | error fault => exact .raise _
    | ok scene => exact .pure _
  · exact .bind (.bind (.read _) fun _ => Station.steady_logEntry _) fun _ => .pure _

theorem createActs_under (setup : SimulatorSetup α) (st : Station) :
    ∀ act ∈ createActs setup st, act.Under (contextAt st.context) := by
  rw [createActs]
  split
  · refine List.forall_mem_append.mpr ⟨?_, List.forall_mem_singleton.mpr rfl⟩
    rw [takeOverActs]
    refine List.forall_mem_append.mpr ⟨?_, List.forall_mem_map.mpr fun _ _ => trivial⟩
    simp [Act.Under]
  · exact List.forall_mem_nil _

theorem recovers_destroy (s : Simulator α) : Station.Recovers s.destroy :=
  .closing (.pure ()) (Keeps.leaves (.bind Station.steady_flush fun _ =>
    .bind (Station.steady_onService _) fun _ => Station.steady_onOutlets _))

end Simulator

namespace Rig
variable {α : Type} [Scalar α] {β : Type}

/-- The context that a simulator finds at its station. -/
def context (rig : Rig α) : Context := rig.station.context

abbrev Steady (x : Action (Rig α) β) : Prop := Keeps context x

abbrev Recovers (x : Action (Rig α) β) : Prop := Leaves context x

theorem steady_atStation {x : Action Station β} (h : Station.Steady x) : Steady (atStation x : Action (Rig α) β) :=
  .onPart h fun _ _ hc => hc

theorem steady_log (level : Level) (message : String) : Steady (log level message : Action (Rig α) Unit) :=
  (keeps_log level message).mono fun view => view.2.1

/-- A step goes back to the context from before, be it taken or rejected, and whoever refuses what it tells. -/
theorem steady_step (elapsed : α) : Steady (step elapsed) := by
  by_cases h : ¬ Scalar.isFinite elapsed ∨ elapsed < 0.0
  · exact (step_rejects h).mono fun view => view.2.1
  · obtain ⟨hf, hn⟩ := not_or.mp h
    intro rig
    obtain ⟨ha, hu⟩ := step_commits (not_not.mp hf) hn rig
    exact ⟨ha, congrArg Prod.snd hu⟩

theorem steady_stepNominal : Steady (stepNominal : Action (Rig α) Unit) :=
  .bind (.read _) fun s => steady_step s.setup.tickLength

/-- So does a series of steps whose entries are held. It may end the program when they are to be delivered. -/
theorem recovers_heldSeries (elapsed : α) (n : Nat) : Recovers (buffered (.times (step elapsed) n)) := by
  refine .bind (steady_atStation Station.steady_openScope).leaves fun before => ?_
  exact .closing ((steady_step elapsed).times n).leaves
    (steady_atStation (Station.steady_closeScope before)).leaves

theorem recovers_run : Recovers (run : Action (Rig α) Nat) := by
  refine .bind (.read _) fun s => ?_
  split
  · refine .bind (steady_log _ _).leaves fun _ => .bind (recovers_heldSeries _ _) fun _ => ?_
    exact .bind (.read _) fun _ => .bind (steady_log _ _).leaves fun _ => .pure _
  · exact .pure _

theorem steady_reset : Steady (reset : Action (Rig α) Unit) := by
  refine .bind (.read _) fun s => .bind ?_ fun scene => .bind (.update fun _ => rfl) fun _ => steady_log _ _
  cases s.setup.build with
  | error fault => exact .raise _
  | ok scene => exact .pure _

/-- What keeps the whole station keeps the context. -/
theorem steady_of_station {x : Action (Rig α) β} (h : Keeps station x) : Steady x := h.mono Station.context

/-- What is told of a tick has the context of ticks, and a rejection has the entity in force. -/
theorem stepActs_under (elapsed : α) (rig : Rig α) :
    ∀ act ∈ rig.stepActs elapsed, act.Under (Simulator.contextAt rig.context) := by
  intro act ha
  obtain ⟨entry, he, rfl⟩ := List.mem_map.mp ha
  have hm := Service.mem_of_mem_logging he
  rw [Motion.stepEntries] at hm
  cases hp : tickProblem? elapsed with
  | none =>
    rw [hp, List.mem_append, Option.mem_toList, Motion.crossing?, List.mem_singleton] at hm
    rcases hm with hm | rfl
    · split_ifs at hm
      obtain rfl := Option.some.inj hm
      rfl
    · rfl
  | some problem =>
    rw [hp] at hm
    obtain rfl := List.mem_singleton.mp hm
    rfl

/-- The context is the same for all steps of a series. -/
theorem seriesActs_under {body : Action (Rig α) Unit} {acts : Rig α → List Act} (hb : Steady body)
    (h : ∀ rig, ∀ act ∈ acts rig, act.Under (Simulator.contextAt rig.context)) (n : Nat) (rig : Rig α) :
    ∀ act ∈ seriesActs body acts n rig, act.Under (Simulator.contextAt rig.context) := by
  induction n generalizing rig with
  | zero => exact List.forall_mem_nil _
  | succ n ih =>
    have hc := (hb rig).2
    rw [seriesActs]
    refine List.forall_mem_append.mpr ⟨h rig, ?_⟩
    rcases hr : body.run rig with ⟨_ | _ | _, next⟩ <;> rw [hr] at hc
    · exact hc ▸ ih next
    · exact List.forall_mem_nil _
    · exact List.forall_mem_nil _

theorem heldSeriesActs_under (elapsed : α) (n : Nat) (rig : Rig α) :
    ∀ act ∈ rig.heldSeriesActs elapsed n, act.Under (Simulator.contextAt rig.context) := by
  refine List.forall_mem_cons.mpr ⟨trivial, List.forall_mem_append.mpr ⟨?_, Service.scopeClosing_under _⟩⟩
  exact seriesActs_under (steady_step elapsed) (stepActs_under elapsed) n rig.holding

theorem runActs_under (rig : Rig α) : ∀ act ∈ rig.runActs, act.Under (Simulator.contextAt rig.context) := by
  rw [runActs]
  split_ifs
  · refine List.forall_mem_cons.mpr ⟨rfl, ?_⟩
    have hbegun := (steady_log .info
      (Simulator.runningText rig.simulator.ticksLeft rig.simulator.setup.tickLength) rig).2
    rcases hr : (log .info (Simulator.runningText rig.simulator.ticksLeft rig.simulator.setup.tickLength)).run
      rig with ⟨_ | _ | _, begun⟩ <;> rw [hr] at hbegun
    · rw [← hbegun]
      refine List.forall_mem_append.mpr ⟨heldSeriesActs_under _ _ begun, ?_⟩
      have hdone := recovers_heldSeries rig.simulator.setup.tickLength rig.simulator.ticksLeft begun
      rcases hh : (buffered (.times (step rig.simulator.setup.tickLength) rig.simulator.ticksLeft)).run
        begun with ⟨_ | _ | _, done⟩ <;> rw [hh] at hdone
      · exact List.forall_mem_singleton.mpr hdone
      · exact List.forall_mem_nil _
      · exact List.forall_mem_nil _
    · exact List.forall_mem_nil _
    · exact List.forall_mem_nil _
  · exact List.forall_mem_nil _

theorem resetActs_under (rig : Rig α) : ∀ act ∈ rig.resetActs, act.Under (Simulator.contextAt rig.context) := by
  rw [resetActs]
  split
  · exact List.forall_mem_singleton.mpr rfl
  · exact List.forall_mem_nil _

end Rig

namespace Session
variable {β : Type}

def context (s : Session) : Context := s.station.context

abbrev Steady (x : Action Session β) : Prop := Keeps context x

abbrev Recovers (x : Action Session β) : Prop := Leaves context x

theorem steady_atStation {x : Action Station β} (h : Station.Steady x) : Steady (atStation x) :=
  .onPart h fun _ _ hc => hc

theorem steady_atService (name : String) {x : Action Station β} (h : Station.Steady x) :
    Steady (atService name x) :=
  .onPart h fun s st hc => (context_settle name st s).trans hc

theorem recovers_atStation {x : Action Station β} (h : Station.Recovers x) : Recovers (atStation x) :=
  fun s => h s.station

theorem steady_atSimulator (name : String) {x : Action (Rig Float) Answer} (h : Rig.Steady x) :
    Steady (atSimulator name x) := by
  refine .bind (.read _) fun simulator => ?_
  cases simulator with
  | none => exact .pure _
  | some simulator => exact fun s => h ⟨simulator, s.station⟩

theorem recovers_atSimulator (name : String) {x : Action (Rig Float) Answer} (h : Rig.Recovers x) :
    Recovers (atSimulator name x) := by
  refine .bind (.read _) fun simulator => ?_
  cases simulator with
  | none => exact .pure _
  | some simulator => exact fun s => h ⟨simulator, s.station⟩

theorem steady_attachSink (choice : SinkChoice) (threshold : Level) :
    Station.Steady (attachSink choice threshold) := by
  intro st
  rcases attachSink_cases choice threshold st with ⟨failure, hr⟩ | ⟨outlets, hr⟩
  · rw [hr]
    exact ⟨nofun, rfl⟩
  · rw [hr]
    exact ⟨nofun, rfl⟩

theorem keeps_quietly {σ : Type} {view : σ → Context} {x : Action σ Unit} (h : Keeps view x) :
    Keeps view (quietly x) :=
  .bind h fun _ => .pure _

theorem recovers_closeScope : Recovers closeScope := by
  refine .bind (.read _) fun scopes => ?_
  match scopes with
  | [] => exact .pure ()
  | (service, before) :: scopes =>
    exact .bind (.update fun _ => rfl) fun _ =>
      .closing (.pure ()) (steady_atService _ (Station.steady_closeScope _)).leaves

theorem recovers_newSimulator (name : String) (blueprint : Blueprint) :
    Recovers (newSimulator name blueprint) := by
  rw [newSimulator]
  cases blueprint.read with
  | error fault =>
    intro s
    rfl
  | ok setup =>
    refine .bind (.pure setup) fun setup => .bind (steady_atStation (Simulator.steady_create setup)).leaves
      fun simulator => .bind (.read _) fun old => .bind (.update fun _ => rfl) fun _ => ?_
    cases old with
    | none => exact .pure ()
    | some old => exact recovers_atStation old.recovers_destroy

theorem recovers_destroy (name : String) : Recovers (destroy name) := by
  refine .bind (.read _) fun old => ?_
  cases old with
  | none => exact .pure ()
  | some old => exact .bind (.update fun _ => rfl) fun _ => recovers_atStation old.recovers_destroy

theorem steady_restore (name snapshot : String) : Steady (restore name snapshot) := by
  refine .bind (.read _) fun scene => ?_
  cases scene with
  | none => exact .pure _
  | some scene =>
    exact steady_atSimulator name (keeps_quietly (Rig.steady_of_station (keeps_adoptScene scene)))

/-- Where no scope is closed and no simulator is taken down, the program goes on. -/
theorem steady_perform {r : Request} (hs : r.command.shifts = false) (hc : r.command.closes = false) :
    Steady (perform r) := by
  obtain ⟨service, name, console, command⟩ := r
  cases command with
  | log level time message context =>
    cases context with
    | none => exact keeps_quietly (steady_atService _ (.bind (.read _) fun _ => Station.steady_logEntry _))
    | some context => exact keeps_quietly (steady_atService _ (Station.steady_logEntry _))
  | inspect => exact .pure _
  | buffer | setThreshold | detachSinks | dropHeld | newLedger =>
    exact keeps_quietly (steady_atService _ (Station.steady_onService _))
  | attachSink choice threshold => exact keeps_quietly (steady_atService _ (steady_attachSink choice threshold))
  | flush => exact keeps_quietly (steady_atService _ Station.steady_flush)
  | openScope =>
    exact keeps_quietly (.bind (steady_atService _ Station.steady_openScope) fun _ => .update fun _ => rfl)
  | report fault time component =>
    exact keeps_quietly (steady_atStation (Station.steady_report fault time component))
  | reject fault time component =>
    exact keeps_quietly (steady_atStation
      (.bind (Station.steady_report fault time component) fun _ => .raise _))
  | newConsole => exact .bind (steady_atStation (Station.steady_onOutlets _)) fun _ => .pure _
  | setColours | setConsoleLevel | consoleLog | consoleLine | placeFile =>
    exact keeps_quietly (steady_atStation (Station.steady_onOutlets _))
  | showPending | showContext | paint | render | showFile => exact .read _
  | describe => exact steady_atSimulator name (.read _)
  | step elapsed times =>
    cases elapsed with
    | none => exact steady_atSimulator name (keeps_quietly (Rig.steady_stepNominal.times times))
    | some elapsed => exact steady_atSimulator name (keeps_quietly ((Rig.steady_step elapsed).times times))
  | reset => exact steady_atSimulator name (keeps_quietly Rig.steady_reset)
  | adoptTime time =>
    exact steady_atSimulator name (keeps_quietly (Rig.steady_of_station (keeps_adoptTime time)))
  | save snapshot =>
    refine keeps_quietly (.update fun s => ?_)
    dsimp only
    split <;> rfl
  | restore snapshot => exact steady_restore name snapshot
  | adoptScene change =>
    exact steady_atSimulator name (keeps_quietly (Rig.steady_of_station (keeps_changeScene change)))
  | addObserver observer =>
    exact steady_atSimulator name (keeps_quietly (Rig.steady_of_station (keeps_addObserver observer)))
  | clearObservers => exact steady_atSimulator name (keeps_quietly (.update fun _ => rfl))
  | closeScope | newSimulator | destroy | run => cases hc
  | pushContext | popContext => cases hs

/-- However a request ends, it leaves the context as it was, unless it is to change it. -/
theorem recovers_perform {r : Request} (hs : r.command.shifts = false) : Recovers (perform r) := by
  cases hc : r.command.closes with
  | false => exact (steady_perform hs hc).leaves
  | true =>
    obtain ⟨service, name, console, command⟩ := r
    cases command with
    | closeScope => exact .bind recovers_closeScope fun _ => .pure _
    | newSimulator blueprint => exact .bind (recovers_newSimulator name blueprint) fun _ => .pure _
    | destroy => exact .bind (recovers_destroy name) fun _ => .pure _
    | run => exact recovers_atSimulator name (.bind Rig.recovers_run fun _ => .pure _)
    | _ => cases hc

section
variable {s : Session} {name : String} {contexts : Level → Context} {acts : List Act}

theorem addressed_under (service : String) (h : ∀ act ∈ acts, act.Under contexts) :
    ∀ act ∈ addressed service name acts, act.Under contexts := by
  rw [addressed]
  split_ifs
  · exact h
  · exact List.forall_mem_nil _

theorem simulatorActs_under (simulator : String) {does : Rig Float → List Act}
    (h : ∀ rig : Rig Float, rig.context = s.context → ∀ act ∈ does rig, act.Under contexts) :
    ∀ act ∈ s.simulatorActs simulator does, act.Under contexts := by
  rw [simulatorActs]
  cases s.simulators.get? simulator with
  | none => exact List.forall_mem_nil _
  | some a => exact h ⟨a, s.station⟩ rfl

theorem newSimulatorActs_under (s : Session) (name : String) (setup : SimulatorSetup Float) :
    ∀ act ∈ s.newSimulatorActs name setup, act.Under (Simulator.contextAt s.context) := by
  refine List.forall_mem_append.mpr ⟨Simulator.createActs_under setup s.station, ?_⟩
  split
  · exact Service.takedown_under
  · exact List.forall_mem_nil _

/-- Whatever a request has logged, by whichever service, has the context that goes with the one in force. -/
theorem acts_under (name : String) (s : Session) (r : Request) :
    ∀ act ∈ s.acts name r, act.Under (r.command.contextAt s.context) := by
  obtain ⟨service, simulator, console, command⟩ := r
  cases command with
  | log => exact addressed_under _ (List.forall_mem_singleton.mpr rfl)
  | report | reject => exact addressed_under _ (List.forall_mem_singleton.mpr rfl)
  | buffer | setThreshold | detachSinks | flush | dropHeld | newLedger | openScope =>
    exact addressed_under _ (List.forall_mem_singleton.mpr trivial)
  | attachSink choice threshold =>
    refine addressed_under _ ?_
    rw [attachActs]
    split
    · exact List.forall_mem_singleton.mpr trivial
    · exact List.forall_mem_nil _
  | closeScope =>
    change ∀ act ∈ s.closeScopeActs name, _
    rw [closeScopeActs]
    split
    · exact List.forall_mem_nil _
    · exact addressed_under _ (Service.scopeClosing_under _)
  | newSimulator blueprint =>
    rw [acts]
    dsimp only
    cases blueprint.read with
    | ok setup => exact addressed_under _ (newSimulatorActs_under s simulator setup)
    | error fault => exact List.forall_mem_nil _
  | destroy => exact addressed_under _ (simulatorActs_under _ fun rig _ => Service.takedown_under)
  | step elapsed times =>
    cases elapsed with
    | none =>
      refine addressed_under _ (simulatorActs_under _ fun rig hc => ?_)
      exact hc ▸ Rig.seriesActs_under Rig.steady_stepNominal (fun rig => Rig.stepActs_under _ rig) times rig
    | some elapsed =>
      refine addressed_under _ (simulatorActs_under _ fun rig hc => ?_)
      exact hc ▸ Rig.seriesActs_under (Rig.steady_step elapsed) (Rig.stepActs_under elapsed) times rig
  | run => exact addressed_under _ (simulatorActs_under _ fun rig hc => hc ▸ rig.runActs_under)
  | reset => exact addressed_under _ (simulatorActs_under _ fun rig hc => hc ▸ rig.resetActs_under)
  | _ => exact List.forall_mem_nil _

end

end Session
end Flotation
