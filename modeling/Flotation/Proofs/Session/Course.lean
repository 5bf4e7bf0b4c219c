import Flotation.Proofs.Log.Accounts
import Flotation.Session.Perform

/-! The course of a session: the state it reaches after some requests, and the entries that a service
accepts on the way, told from the commands alone. -/
namespace Flotation

/-- What decides which messages are accepted and the context they get: the threshold of a service, the
current context, and the contexts to go back to. -/
structure Outlook where
  threshold : Level
  context : Context
  contexts : List Context

namespace Outlook

def after (o : Outlook) : Command → Outlook
  | .setThreshold level => { o with threshold := level }
  | .pushContext context => { o with context, contexts := o.context :: o.contexts }
  | .popContext =>
    match o.contexts with
    | [] => o
    | context :: contexts => { o with context, contexts }
  | _ => o

/-- The entry that a command logs, if its level reaches the threshold of this moment. -/
def entries (o : Outlook) : Command → List Entry
  | .log level time message context =>
    if o.threshold ≤ level then [⟨level, time, message, context.getD o.context⟩] else []
  | _ => []

/-- The entries accepted in the course of some commands, in the order in which they are logged. -/
def accepted (o : Outlook) : List Command → List Entry
  | [] => []
  | command :: rest => o.entries command ++ (o.after command).accepted rest

end Outlook

namespace Session

/-- A session that starts with nothing but files. -/
def among (files : Directory) : Session where
  station := { outlets := { directory := files } }

/-- The session after some requests, unless one of them aborts the program. Whatever they raise is
caught. -/
def after (s : Session) : List Request → Option Session
  | [] => some s
  | r :: rest =>
    match (perform r).run s with
    | (.aborted, _) => none
    | (_, t) => t.after rest

/-- The outlook of the service of a name. -/
def outlook (s : Session) (name : String) : Outlook :=
  ⟨(s.service name).threshold, s.station.context, s.contexts⟩

theorem entries_log (name : String) (s : Session) (level : Level) (time : Float) (message : String)
    (context : Option Context) :
    (s.outlook name).entries (.log level time message context) =
      (s.service name).accepted ⟨level, time, message, context.getD s.station.context⟩ := by
  by_cases hl : (s.service name).threshold ≤ level
  · simp [outlook, Outlook.entries, Service.accepted, Service.accepts, hl]
  · simp [outlook, Outlook.entries, Service.accepted, Service.accepts, hl]

theorem after_cons {s : Session} {r : Request} (h : ((perform r).run s).1 ≠ .aborted) (rest : List Request) :
    s.after (r :: rest) = ((perform r).run s).2.after rest := by
  rw [after]
  rcases hr : (perform r).run s with ⟨outcome, t⟩
  cases outcome with
  | returned _ => rfl
  | raised _ => rfl
  | aborted => exact absurd (congrArg Prod.fst hr) h

@[simp] theorem service_stationFor (name : String) (s : Session) :
    (stationFor name s).service = s.service name := rfl

@[simp] theorem context_stationFor (name : String) (s : Session) :
    (stationFor name s).context = s.station.context := rfl

@[simp] theorem service_settle (name : String) (st : Station) (s : Session) :
    (settle name st s).service name = st.service := by
  unfold settle service
  split
  · rfl
  · simp only [Named.get?_put_self, Option.getD_some]

/-- The other services are left as they are. -/
theorem service_settle_of_ne {name other : String} (h : other ≠ name) (st : Station) (s : Session) :
    (settle name st s).service other = s.service other := by
  by_cases hn : name = sharedService
  · have ho : other ≠ sharedService := hn ▸ h
    rw [settle, if_pos hn, service, service, if_neg ho, if_neg ho]
  · rw [settle, if_neg hn, service, service, Named.get?_put_of_ne _ _ h.symm]

@[simp] theorem serials_settle (name : String) (st : Station) (s : Session) :
    (settle name st s).station.serials = st.serials := by
  unfold settle
  split <;> rfl

@[simp] theorem context_settle (name : String) (st : Station) (s : Session) :
    (settle name st s).station.context = st.context := by
  unfold settle
  split <;> rfl

@[simp] theorem scopes_settle (name : String) (st : Station) (s : Session) :
    (settle name st s).scopes = s.scopes := by
  unfold settle
  split <;> rfl

@[simp] theorem contexts_settle (name : String) (st : Station) (s : Session) :
    (settle name st s).contexts = s.contexts := by
  unfold settle
  split <;> rfl

theorem run_atService {β : Type} (name : String) (x : Action Station β) (s : Session) :
    (atService name x).run s =
      ((x.run (stationFor name s)).1, settle name (x.run (stationFor name s)).2 s) := rfl

theorem atService_shared {β : Type} (x : Action Station β) : atService sharedService x = atStation x := by
  have hp : stationFor sharedService = Session.station := by
    funext s
    rw [stationFor, service, if_pos rfl]
  have hs : settle sharedService = fun station s => { s with station } := by
    funext station s
    rw [settle, if_pos rfl]
  rw [atService, atStation, hp, hs]

theorem run_atStation {β : Type} {x : Action Station β} {s : Session} {outcome : Outcome β} {st : Station}
    (h : x.run s.station = (outcome, st)) : (atStation x).run s = (outcome, { s with station := st }) := by
  rw [atStation, Action.run_onPart, h]

section
variable {name : String} {s : Session} {old : Simulator Float} {st : Station} {outcome : Outcome Unit}

section
variable {blueprint : Blueprint} {setup : SimulatorSetup Float} {new : Simulator Float} {made : Station}

/-- A file that cannot be read is refused before anything has happened. -/
theorem newSimulator_unread {fault : Fault} (h : blueprint.read = .error fault) (name : String) (s : Session) :
    (newSimulator name blueprint).run s = (.raised (.fault fault), s) := by
  rw [newSimulator, h]
  rfl

/-- Once it has been read, a setup from a file is as good as one that is given. -/
theorem newSimulator_read (h : blueprint.read = .ok setup) (name : String) :
    newSimulator name blueprint = newSimulator name (.setup setup) := by
  rw [newSimulator, newSimulator, h]
  rfl

/-- What keeps a simulator from being made is raised to the one who asks for it. -/
theorem newSimulator_raised {failure : Failure}
    (hr : (Simulator.create setup).run s.station = (.raised failure, made)) :
    (newSimulator name (.setup setup)).run s = (.raised failure, { s with station := made }) :=
  Action.run_bind_raised (run_atStation hr) _

theorem newSimulator_run (hn : s.simulators.get? name = none)
    (hr : (Simulator.create setup).run s.station = (.returned new, made)) :
    (newSimulator name (.setup setup)).run s =
      (.returned (), { s with station := made, simulators := s.simulators.put name new }) := by
  rw [newSimulator, Blueprint.read, Action.ofExcept, pure_bind, Action.run_bind_returned (run_atStation hr),
    Action.run_bind_returned (Action.run_read _ _), hn]
  rfl

/-- The new simulator is there before the old one is taken down. -/
theorem newSimulator_run_taken (hn : s.simulators.get? name = some old)
    (hr : (Simulator.create setup).run s.station = (.returned new, made))
    (hd : old.destroy.run made = (outcome, st)) :
    (newSimulator name (.setup setup)).run s =
      (outcome, { s with station := st, simulators := s.simulators.put name new }) := by
  rw [newSimulator, Blueprint.read, Action.ofExcept, pure_bind, Action.run_bind_returned (run_atStation hr),
    Action.run_bind_returned (Action.run_read _ _), hn, Action.run_bind_returned (Action.run_update _ _)]
  exact run_atStation hd

end

theorem takeDown_run (hg : s.simulators.get? name = some old)
    (hd : old.destroy.run s.station = (outcome, st)) :
    (destroy name).run s = (outcome, { s with station := st, simulators := s.simulators.erase name }) := by
  rw [destroy, Action.run_bind_returned (Action.run_read _ _), hg]
  exact (Action.run_bind_returned (Action.run_update _ _) _).trans (run_atStation hd)

theorem takeDown_run_none (hg : s.simulators.get? name = none) :
    (destroy name).run s = (.returned (), s) := by
  rw [destroy, Action.run_bind_returned (Action.run_read _ _), hg]
  rfl

end

theorem quietly_returned {x : Action Session Unit} {s t : Session} (h : x.run s = (.returned (), t)) :
    (quietly x).run s = (.returned .nothing, t) := by
  rw [quietly, Action.run_bind_returned h, Action.run_pure]

theorem quietly_raised {x : Action Session Unit} {s t : Session} {failure : Failure}
    (h : x.run s = (.raised failure, t)) : (quietly x).run s = (.raised failure, t) := Action.run_bind_raised h _

theorem quietly_state (x : Action Session Unit) (s : Session) :
    ((quietly x).run s).2 = (x.run s).2 := by
  rw [quietly, Action.run_bind]
  rcases x.run s with ⟨_ | _ | _, t⟩ <;> rfl

theorem atService_returned {name : String} {x : Action Station Unit} {s : Session} {st : Station}
    (h : x.run (stationFor name s) = (.returned (), st)) :
    (quietly (atService name x)).run s = (.returned .nothing, settle name st s) :=
  quietly_returned (by rw [run_atService, h])

theorem atService_raised {name : String} {x : Action Station Unit} {s : Session} {st : Station} {failure : Failure}
    (h : x.run (stationFor name s) = (.raised failure, st)) :
    (quietly (atService name x)).run s = (.raised failure, settle name st s) :=
  quietly_raised (by rw [run_atService, h])

/-- A message without a context of its own is logged under the one in force. -/
theorem log_run (name simulator : String) (console : Option String) (level : Level) (time : Float)
    (message : String) (context : Option Context) (s : Session) :
    (perform ⟨name, simulator, console, .log level time message context⟩).run s =
      (quietly (atService name (Station.logEntry
        ⟨level, time, message, context.getD s.station.context⟩))).run s := by
  cases context <;> rfl

theorem quietly_atService_returned {name : String} {x : Action Station Unit} {s t : Session}
    {answer : Answer} (h : (quietly (atService name x)).run s = (.returned answer, t)) :
    ∃ st, x.run (stationFor name s) = (.returned (), st) ∧ t = settle name st s := by
  rw [quietly, Action.run_bind, run_atService] at h
  rcases hx : x.run (stationFor name s) with ⟨_ | _ | _, st⟩ <;> rw [hx] at h <;> cases h
  exact ⟨st, rfl, rfl⟩

theorem closeScope_run {name : String} {before : Bool} {scopes : List (String × Bool)} {s : Session}
    {st : Station} (hs : s.scopes = (name, before) :: scopes)
    (hr : (Station.closeScope before).run (stationFor name s) = (.returned (), st)) :
    closeScope.run s = (.returned (), settle name st { s with scopes }) := by
  have hf : (Station.closeScope before).run (stationFor name { s with scopes }) = (.returned (), st) := hr
  rw [closeScope, Action.run_bind_returned (Action.run_read _ s), hs]
  dsimp only
  rw [Action.run_bind_returned (Action.run_update _ s)]
  exact Action.closing_returned rfl (by rw [run_atService, hf])

/-- What keeps a station's context and threshold keeps the outlook. -/
theorem keeps_atService {x : Action Station Unit} (name : String)
    (h : Action.Keeps (fun st => (st.context, st.service.threshold)) x) :
    Action.Keeps (fun s => outlook s name) (atService name x) := by
  apply Action.Keeps.onPart h
  intro s st he
  obtain ⟨hc, ht⟩ := Prod.mk.inj he
  simp only [outlook, service_settle, context_settle, contexts_settle, hc, ht, context_stationFor,
    service_stationFor]

end Session
end Flotation
