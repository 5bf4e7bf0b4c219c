import Flotation.Proofs.Session.LogActs
import Flotation.Proofs.Simulator.Twins

/-! The layout of the files: where paths lead to, and which files may be added to. Nothing that is asked of a session
changes it, so a log file that can be opened can be opened later on, and one that cannot never can. -/
namespace Flotation
open Flotation.Action

namespace Directory

structure Layout where
  locate : String → Option String
  writable : String → Bool

def layout (d : Directory) : Layout := ⟨d.locate, d.writable⟩

theorem layout_write (d : Directory) (path contents : String) : (d.write path contents).layout = d.layout := by
  rw [layout, locate_write, writable_write, layout]

theorem opens_congr {d e : Directory} (h : d.layout = e.layout) : d.opens = e.opens := by
  obtain ⟨hl, hw⟩ := Layout.mk.inj h
  funext path
  rw [opens, opens, hl, hw]

end Directory

namespace Outlets

def layout (o : Outlets) : Directory.Layout := o.directory.layout

theorem layout_print (o : Outlets) (id : ConsoleId) (text : Console → String) :
    (o.print id text).layout = o.layout := by
  rw [print]
  split
  · rfl
  · split <;> rfl

theorem layout_receive (o : Outlets) (batch : List Entry) (target : Target) :
    (o.receive batch target).layout = o.layout := by
  cases target with
  | console id => exact layout_print o id _
  | file path => exact o.directory.layout_write path _
  | nowhere | entries | batches => rfl

theorem layout_noteHeight (o : Outlets) (tag : Option String) (height : Float) :
    (o.noteHeight tag height).layout = o.layout := by
  cases tag <;> rfl

end Outlets

theorem deliver_layout (batch : List Entry) (slots : List Slot) (outlets : Outlets) :
    (deliver batch slots outlets).outlets.layout = outlets.layout := by
  induction slots generalizing outlets with
  | nil => rfl
  | cons slot rest ih =>
    have hw : (slot.written batch outlets).layout = outlets.layout := by
      rw [Slot.written]
      split
      · rfl
      · exact outlets.layout_receive _ _
    rw [deliver_cons]
    split
    · rfl
    · exact (ih _).trans hw

namespace Station
variable {β : Type}

def layout (st : Station) : Directory.Layout := st.outlets.layout

/-- The layout is left as it is, however the action ends. -/
abbrev Settled (x : Action Station β) : Prop := Leaves layout x

theorem settled_onService (f : Service → Service) : Settled (onService f) := .update fun _ => rfl

theorem settled_dispatch (batch : List Entry) : Settled (dispatch batch) := by
  intro st
  rw [dispatch_run]
  exact deliver_layout batch st.service.slots st.outlets

theorem settled_logEntry (entry : Entry) : Settled (logEntry entry) := by
  refine .bind (.read _) fun service => ?_
  split
  · refine .bind (settled_onService _) fun _ => ?_
    split
    · exact settled_onService _
    · exact settled_dispatch _
  · exact .pure ()

theorem settled_report (fault : Fault) (time : Float) (component : String) : Settled (report fault time component) :=
  .bind (.read _) fun _ => settled_logEntry _

theorem settled_flush : Settled flush := by
  refine .bind (.read _) fun service => ?_
  split
  · exact .bind (settled_dispatch _) fun _ => settled_onService _
  · exact .pure ()

theorem settled_openScope : Settled openScope :=
  .bind (.read _) fun _ => .bind (settled_onService _) fun _ => .pure _

theorem settled_closeScope (before : Bool) : Settled (closeScope before) :=
  .bind settled_flush fun _ => settled_onService _

theorem settled_openLog (path : String) : Settled (openLog path) := by
  intro st
  rw [openLog_run]
  split
  · exact st.outlets.directory.layout_write path _
  · rfl

/-- Stations with a layout that are one and the same, as a simulator finds them. -/
theorem congruence_settled (fixed : Directory.Layout) : Congruence fun u v => u = v ∧ u.layout = fixed where
  entry := by
    rintro u _ ⟨rfl, h⟩ entry
    exact ⟨rfl, rfl, (settled_logEntry _ u).trans h⟩
  enter := by
    rintro u _ ⟨rfl, h⟩ context
    exact ⟨rfl, h⟩
  leave := by
    rintro u _ u' _ ⟨rfl, -⟩ ⟨rfl, h⟩
    exact ⟨rfl, h⟩
  hold := by
    rintro u _ ⟨rfl, h⟩
    exact ⟨rfl, h⟩
  release := by
    rintro u _ u' _ ⟨rfl, -⟩ ⟨rfl, h⟩
    exact ⟨rfl, rfl, (settled_closeScope _ u').trans h⟩
  height := by
    rintro u _ ⟨rfl, h⟩ tag height
    exact ⟨rfl, (u.outlets.layout_noteHeight tag height).trans h⟩

end Station

namespace Simulator
variable {α : Type} [Scalar α]

theorem settled_takeOver (settings : LogSettings) : Station.Settled (takeOver settings) := by
  have hrest : Station.Settled (do
      let serial ← Action.read Station.serials
      let console := consoleId serial
      Action.update fun st : Station => { st with serials := serial + 1 }
      Station.onOutlets (·.addConsole console ⟨{ level := settings.consoleLevel }, true, ""⟩)
      Station.onService (served settings console)
      return serial) :=
    .bind (.read _) fun _ => .bind (.update fun _ => rfl) fun _ => .bind (.update fun _ => rfl) fun _ =>
      .bind (Station.settled_onService _) fun _ => .pure _
  rw [takeOver]
  split
  · exact .bind (Station.settled_openLog _) fun _ => hrest
  · exact hrest

theorem settled_create (setup : SimulatorSetup α) : Station.Settled (create setup) := by
  refine .bind ?_ fun scene => .bind (settled_takeOver _) fun serial => ?_
  · cases setup.build with
    | error fault => exact .raise _
    | ok scene => exact .pure _
  · exact .bind (.bind (.read _) fun _ => Station.settled_logEntry _) fun _ => .pure _

theorem settled_destroy (s : Simulator α) : Station.Settled s.destroy :=
  .closing (.pure ()) (.bind Station.settled_flush fun _ => .bind (Station.settled_onService _) fun _ =>
    .update fun _ => rfl)

end Simulator

namespace Rig
variable {α : Type} [Scalar α] {β : Type}

def layout (rig : Rig α) : Directory.Layout := rig.station.layout

/-- What does not tell two simulators apart that differ in their consoles alone reaches the files through the log. -/
theorem settled_of_impartial {x : Action (Rig α) β} (hx : Impartial x) : Leaves layout x := by
  intro rig
  have ht : Twins (fun u v => u = v ∧ u.layout = rig.layout) _ rig.simulator.serial rig rig :=
    .mk rig.simulator rfl ⟨rfl, rfl⟩
  exact (hx.twins (Station.congruence_settled rig.layout) ht).related.related.2

end Rig

namespace Session
variable {β : Type} {name : String}

def layout (s : Session) : Directory.Layout := s.station.layout

abbrev Settled (x : Action Session β) : Prop := Leaves layout x

theorem settled_quietly {σ ν : Type} {view : σ → ν} {x : Action σ Unit} (h : Leaves view x) :
    Leaves view (quietly x) := .bind h fun _ => .pure _

theorem settled_atStation {x : Action Station β} (h : Station.Settled x) : Settled (atStation x) :=
  fun s => h s.station

theorem settled_atService (name : String) {x : Action Station β} (h : Station.Settled x) :
    Settled (atService name x) := by
  intro s
  have hs (st : Station) : (settle name st s).layout = st.layout := by
    rw [settle]
    split <;> rfl
  exact (hs _).trans (h (stationFor name s))

theorem settled_atSimulator (name : String) {x : Action (Rig Float) Answer} (h : Leaves Rig.layout x) :
    Settled (atSimulator name x) := by
  refine .bind (.read _) fun simulator => ?_
  cases simulator with
  | none => exact .pure _
  | some simulator => exact fun s => h ⟨simulator, s.station⟩

theorem settled_attachSink (choice : SinkChoice) (threshold : Level) :
    Station.Settled (attachSink choice threshold) := by
  cases choice with
  | file path => exact .bind (x := Station.openLog path) (Station.settled_openLog path) fun _ => .update fun _ => rfl
  | _ => exact fun _ => rfl

theorem settled_newSimulator (name : String) (blueprint : Blueprint) : Settled (newSimulator name blueprint) := by
  rw [newSimulator]
  cases blueprint.read with
  | error fault =>
    intro s
    rfl
  | ok setup =>
    refine .bind (.pure setup) fun setup => .bind (settled_atStation (Simulator.settled_create setup))
      fun simulator => .bind (.read _) fun old => .bind (.update fun _ => rfl) fun _ => ?_
    cases old with
    | none => exact .pure ()
    | some old => exact settled_atStation old.settled_destroy

/-- Whatever is requested, and however that ends, the layout of the files is as it was. -/
theorem settled_perform (r : Request) : Settled (perform r) := by
  obtain ⟨service, simulator, console, command⟩ := r
  cases command with
  | log level time message context =>
    cases context with
    | none => exact settled_quietly (settled_atService _ (.bind (.read _) fun _ => Station.settled_logEntry _))
    | some context => exact settled_quietly (settled_atService _ (Station.settled_logEntry _))
  | inspect => exact .pure _
  | buffer | setThreshold | detachSinks | dropHeld | newLedger =>
    exact settled_quietly (settled_atService _ (Station.settled_onService _))
  | attachSink choice threshold =>
    exact settled_quietly (settled_atService _ (settled_attachSink choice threshold))
  | flush => exact settled_quietly (settled_atService _ Station.settled_flush)
  | openScope =>
    exact settled_quietly (.bind (settled_atService _ Station.settled_openScope) fun _ => .update fun _ => rfl)
  | closeScope =>
    refine settled_quietly (.bind (.read _) fun scopes => ?_)
    match scopes with
    | [] => exact .pure ()
    | (service, before) :: scopes =>
      exact .bind (.update fun _ => rfl) fun _ =>
        .closing (.pure ()) (settled_atService _ (Station.settled_closeScope _))
  | pushContext => exact fun _ => rfl
  | popContext =>
    refine .bind (.bind (.read _) fun contexts => ?_) fun _ => .read _
    match contexts with
    | [] => exact .pure ()
    | before :: contexts => exact fun _ => rfl
  | report fault time component =>
    exact settled_quietly (settled_atStation (Station.settled_report fault time component))
  | reject fault time component =>
    exact settled_quietly (settled_atStation
      (.bind (Station.settled_report fault time component) fun _ => .raise _))
  | consoleLog | consoleLine =>
    exact settled_quietly (settled_atStation (.update fun st => st.outlets.layout_print _ _))
  | placeFile path contents =>
    exact settled_quietly (settled_atStation (.update fun st => st.outlets.directory.layout_write path contents))
  | newConsole | setColours | setConsoleLevel => exact fun _ => rfl
  | showPending | showContext | paint | render | showFile => exact .read _
  | newSimulator blueprint => exact settled_quietly (settled_newSimulator simulator blueprint)
  | destroy =>
    refine settled_quietly (.bind (.read _) fun old => ?_)
    cases old with
    | none => exact .pure ()
    | some old => exact .bind (.update fun _ => rfl) fun _ => settled_atStation old.settled_destroy
  | describe => exact settled_atSimulator simulator (.read _)
  | step elapsed times =>
    cases elapsed with
    | none =>
      exact settled_atSimulator simulator
        (settled_quietly (Rig.settled_of_impartial (Rig.impartial_stepNominal.times times)))
    | some elapsed =>
      exact settled_atSimulator simulator
        (settled_quietly (Rig.settled_of_impartial ((Rig.impartial_step elapsed).times times)))
  | run => exact settled_atSimulator simulator (.bind (Rig.settled_of_impartial Rig.impartial_run) fun _ => .pure _)
  | reset => exact settled_atSimulator simulator (settled_quietly (Rig.settled_of_impartial Rig.impartial_reset))
  | adoptTime time =>
    exact settled_atSimulator simulator (settled_quietly (Rig.settled_of_impartial (Rig.impartial_adoptTime time)))
  | save snapshot =>
    refine settled_quietly (.update fun s => ?_)
    dsimp only
    split <;> rfl
  | restore snapshot =>
    refine .bind (.read _) fun scene => ?_
    cases scene with
    | none => exact .pure _
    | some scene =>
      exact settled_atSimulator simulator
        (settled_quietly (Rig.settled_of_impartial (Rig.impartial_adoptScene scene)))
  | adoptScene change =>
    exact settled_atSimulator simulator (settled_quietly ((keeps_changeScene change).mono Station.layout).leaves)
  | addObserver observer =>
    exact settled_atSimulator simulator
      (settled_quietly (Rig.settled_of_impartial (Rig.impartial_addObserver observer)))
  | clearObservers =>
    exact settled_atSimulator simulator (settled_quietly (Rig.settled_of_impartial Rig.impartial_clearObservers))

/-- So it is after any number of requests. -/
theorem layout_after {s t : Session} {requests : List Request} (h : s.after requests = some t) :
    t.layout = s.layout := by
  induction requests generalizing s with
  | nil =>
    cases h
    rfl
  | cons r rest ih =>
    rw [after_cons (not_aborted_of_after h)] at h
    exact (ih h).trans (settled_perform r s)

end Session
end Flotation
