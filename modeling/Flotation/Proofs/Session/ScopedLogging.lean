import Flotation.Proofs.Log.Accounts
import Flotation.Proofs.Session.Course

/-! Logging with scopes that are closed in the reverse order of opening: whatever is buffered and flushed
in between, no entry is lost, repeated or overtaken, and with no scope open nothing is held. -/
namespace Flotation

/-- Messages, thresholds, flushes, and scopes and contexts that are opened and closed again. -/
def Command.logsInScopes : Command → Bool
  | .log .. | .setThreshold _ | .flush | .openScope | .closeScope | .pushContext _ | .popContext => true
  | _ => false

namespace Session

/-- All open scopes belong to one service. The first of them found it not buffering, and each later one
found it as the one before had left it. -/
def Nested (name : String) : Bool → List (String × Bool) → Prop
  | buffering, [] => buffering = false
  | buffering, (owner, before) :: scopes => buffering = true ∧ owner = name ∧ Nested name before scopes

/-- What every command of scoped logging keeps. -/
structure Orderly (name : String) (s : Session) : Prop where
  compliant : (s.service name).Compliant
  prompt : (s.service name).Prompt
  nested : Nested name (s.service name).buffering s.scopes

/-- How a session with orderly scopes goes on. -/
structure Advance (name : String) (command : Command) (s t : Session) : Prop where
  orderly : Orderly name t
  accounts : Service.Accounts ((s.outlook name).entries command) (s.service name) (t.service name)
  outlook_eq : t.outlook name = (s.outlook name).after command

variable {name : String} {s : Session}

/-- An operation of the service alone, which leaves its buffering as it was. -/
private theorem atService_advances {command : Command} {x : Action Station Unit} {st : Station}
    {service : Service} (h : Orderly name s) (hx : x.run (stationFor name s) = (.returned (), st))
    (hb : (stationFor name s).Becomes service st)
    (hacc : Service.Accounts ((s.outlook name).entries command) (s.service name) service)
    (hp : service.Prompt) (hbuf : service.buffering = (s.service name).buffering)
    (ho : (s.outlook name).after command = { s.outlook name with threshold := service.threshold }) :
    ∃ t, (quietly (atService name x)).run s = (.returned .nothing, t) ∧ Advance name command s t := by
  have hs : (settle name st s).service name = service := (service_settle name st s).trans hb.service_eq
  refine ⟨settle name st s, ?_, ⟨?_, ?_, ?_⟩, ?_, ?_⟩
  · exact atService_returned hx
  · rw [hs]
    exact hacc.compliant h.compliant
  · rw [hs]
    exact hp
  · rw [hs, hbuf, scopes_settle]
    exact h.nested
  · rw [hs]
    exact hacc
  · rw [ho]
    simp only [outlook, hs, context_settle, contexts_settle, hb.context_eq, context_stationFor]

private theorem log_advances (h : Orderly name s) (level : Level) (time : Float) (message : String)
    (context : Option Context) :
    ∃ t, (quietly (atService name (Station.logEntry
        ⟨level, time, message, context.getD s.station.context⟩))).run s = (.returned .nothing, t) ∧
      Advance name (.log level time message context) s t := by
  have hst : (stationFor name s).service.Compliant := h.compliant
  obtain ⟨st, hr, hb⟩ := Station.logEntry_compliant hst _
  refine atService_advances h hr hb ?_ (h.prompt.logged _) (Service.buffering_logged _ _) ?_
  · rw [entries_log]
    exact Service.accounts_logged h.prompt _
  · rw [Service.threshold_logged]
    rfl

private theorem flush_advances (h : Orderly name s) :
    ∃ t, (quietly (atService name Station.flush)).run s = (.returned .nothing, t) ∧
      Advance name .flush s t := by
  have hst : (stationFor name s).service.Compliant := h.compliant
  obtain ⟨st, hr, hb⟩ := Station.flush_compliant hst
  exact atService_advances h hr hb (Service.accounts_flushed _) (fun _ => rfl) rfl rfl

private theorem setThreshold_advances (h : Orderly name s) (level : Level) :
    ∃ t, (quietly (atService name (Station.onService (·.setThreshold level)))).run s =
        (.returned .nothing, t) ∧ Advance name (.setThreshold level) s t := by
  have hb : (stationFor name s).Becomes ((s.service name).setThreshold level)
    { stationFor name s with service := (s.service name).setThreshold level } := ⟨rfl, rfl, rfl⟩
  exact atService_advances h (Station.run_onService _ _) hb (.of_same rfl rfl rfl) h.prompt rfl rfl

private theorem openScope_advances (h : Orderly name s) :
    ∃ t, (quietly (openScope name)).run s = (.returned .nothing, t) ∧ Advance name .openScope s t := by
  let st : Station := { stationFor name s with service := (s.service name).buffer true }
  let t : Session :=
    { settle name st s with scopes := (name, (s.service name).buffering) :: (settle name st s).scopes }
  have hs : t.service name = (s.service name).buffer true := service_settle name st s
  refine ⟨t, quietly_returned rfl, ⟨?_, ?_, ?_⟩, ?_, ?_⟩
  · rw [hs]
    exact h.compliant
  · rw [hs]
    intro hb
    cases hb
  · rw [hs]
    refine ⟨rfl, rfl, ?_⟩
    rw [scopes_settle]
    exact h.nested
  · rw [hs]
    exact .of_same rfl rfl rfl
  · change Outlook.mk (t.service name).threshold (settle name st s).station.context
      (settle name st s).contexts = _
    rw [hs, context_settle, contexts_settle]
    rfl

/-- Closing delivers what is held, and what the scope found it finds again. -/
private theorem closeScope_advances (h : Orderly name s) :
    ∃ t, (quietly closeScope).run s = (.returned .nothing, t) ∧ Advance name .closeScope s t := by
  cases hsc : s.scopes with
  | nil =>
    refine ⟨s, ?_, h, .refl _, rfl⟩
    apply quietly_returned
    rw [closeScope, Action.run_bind_returned (Action.run_read _ s), hsc]
    rfl
  | cons scope scopes =>
    obtain ⟨owner, before⟩ := scope
    have hn := h.nested
    rw [hsc] at hn
    obtain ⟨_, rfl, hrest⟩ := hn
    let s' : Session := { s with scopes }
    have hst : (stationFor owner s').service.Compliant := h.compliant
    obtain ⟨st, hr, hb⟩ := Station.closeScope_compliant hst before
    have hs : (settle owner st s').service owner = (s.service owner).flushed.buffer before :=
      (service_settle owner st s').trans hb.service_eq
    have hacc : Service.Accounts [] (s.service owner) ((s.service owner).flushed.buffer before) :=
      (Service.accounts_flushed _).trans (.of_same rfl rfl rfl)
    refine ⟨settle owner st s', ?_, ⟨?_, ?_, ?_⟩, ?_, ?_⟩
    · exact quietly_returned (closeScope_run hsc hr)
    · rw [hs]
      exact hacc.compliant h.compliant
    · rw [hs]
      exact fun _ => rfl
    · rw [hs, scopes_settle]
      exact hrest
    · rw [hs]
      exact hacc
    · simp only [outlook, hs, context_settle, contexts_settle, hb.context_eq]
      rfl

private theorem context_advances (h : Orderly name s) {command : Command} (context : Context)
    (contexts : List Context) (he : (s.outlook name).entries command = [])
    (ho : (s.outlook name).after command = ⟨(s.service name).threshold, context, contexts⟩) :
    Advance name command s { s with station := { s.station with context }, contexts } := by
  have hs : ({ s with station := { s.station with context }, contexts } : Session).service name =
      s.service name := by
    unfold service
    split <;> rfl
  refine ⟨⟨?_, ?_, ?_⟩, ?_, ?_⟩
  · rw [hs]
    exact h.compliant
  · rw [hs]
    exact h.prompt
  · rw [hs]
    exact h.nested
  · rw [hs, he]
    exact .refl _
  · rw [ho, outlook, hs]

private theorem popContext_advances (h : Orderly name s) :
    ∃ t, popContext.run s = (.returned (), t) ∧ Advance name .popContext s t := by
  unfold popContext
  rw [Action.run_bind_returned (Action.run_read _ s)]
  cases hc : s.contexts with
  | nil => exact ⟨s, rfl, context_advances h _ _ rfl (by simp [outlook, Outlook.after, hc])⟩
  | cons context contexts =>
    refine ⟨{ s with station := { s.station with context }, contexts }, rfl, ?_⟩
    exact context_advances h _ _ rfl (by simp [outlook, Outlook.after, hc])

/-- One command of scoped logging. -/
theorem perform_advances (h : Orderly name s) {r : Request} (hr : r.service = name)
    (hc : r.command.logsInScopes = true) :
    ∃ answer t, (perform r).run s = (.returned answer, t) ∧ Advance name r.command s t := by
  obtain ⟨owner, simulator, console, command⟩ := r
  cases hr
  cases command with
  | log level time message context =>
    obtain ⟨t, ht, ha⟩ := log_advances h level time message context
    exact ⟨_, t, (log_run _ _ _ _ _ _ _ s).trans ht, ha⟩
  | setThreshold level => exact ⟨_, setThreshold_advances h level⟩
  | flush => exact ⟨_, flush_advances h⟩
  | openScope => exact ⟨_, openScope_advances h⟩
  | closeScope => exact ⟨_, closeScope_advances h⟩
  | pushContext context => exact ⟨_, _, rfl, context_advances h context _ rfl rfl⟩
  | popContext =>
    obtain ⟨t, ht, ha⟩ := popContext_advances h
    exact ⟨.context t.station.context, t, Action.run_bind_returned ht _, ha⟩
  | _ => cases hc

/-- A whole course of scoped logging. -/
theorem after_advances (h : Orderly name s) {requests : List Request}
    (hr : ∀ r ∈ requests, r.service = name ∧ r.command.logsInScopes = true) :
    ∃ t, s.after requests = some t ∧ Orderly name t ∧
      Service.Accounts ((s.outlook name).accepted (requests.map (·.command)))
        (s.service name) (t.service name) := by
  induction requests generalizing s with
  | nil => exact ⟨s, rfl, h, .refl _⟩
  | cons r rest ih =>
    obtain ⟨⟨hn, hc⟩, hrest⟩ := List.forall_mem_cons.mp hr
    obtain ⟨answer, t, ht, ha⟩ := perform_advances h hn hc
    obtain ⟨u, hu, ho, hacc⟩ := ih ha.orderly hrest
    rw [ha.outlook_eq] at hacc
    refine ⟨u, ?_, ho, ha.accounts.trans hacc⟩
    rw [after_cons (by simp [ht]), ht]
    exact hu

/-- With a fixed list of sinks that never refuse, and no scope open at the start, scoped logging delivers
every accepted entry once and in order: at each point a sink has got, or is still to get, just the entries
it admits. None of its batches is empty, and with no scope open nothing is held. -/
theorem scoped_logging_conserves (name : String) (s : Session) (requests : List Request)
    (hr : ∀ r ∈ requests, r.service = name ∧ r.command.logsInScopes = true)
    (hc : (s.service name).Compliant) (hb : (s.service name).buffering = false)
    (hh : (s.service name).held = []) (hs : s.scopes = []) :
    ∃ t, s.after requests = some t ∧
      List.Forall₂ (fun before after => Slot.Continues before after ∧
          after.entries ++ after.admitted (t.service name).pending =
            before.entries ++ before.admitted ((s.outlook name).accepted (requests.map (·.command))))
        (s.service name).slots (t.service name).slots ∧
      (t.scopes = [] → (t.service name).held = []) := by
  have ho : Orderly name s := by
    refine ⟨hc, fun _ => hh, ?_⟩
    rw [hs, hb]
    rfl
  obtain ⟨t, ht, hend, hacc⟩ := after_advances ho hr
  refine ⟨t, ht, ?_, ?_⟩
  · have hslots := hacc.slots
    rw [Service.pending_eq_nil.mpr hh] at hslots
    exact hslots
  · intro he
    have hn := hend.nested
    rw [he] at hn
    exact hend.prompt hn

/-- Two sinks, the second for warnings only. -/
def watched : Session :=
  { station := { service := { slots := [⟨.into (.batches "all"), .trace, []⟩,
      ⟨.into (.entries "grave"), .warning, []⟩] } } }

theorem watched_compliant : (watched.service sharedService).Compliant := by
  intro slot hm received
  simp only [service, watched, if_true, List.mem_cons, List.not_mem_nil, or_false] at hm
  rcases hm with rfl | rfl <;> rfl

/-- Nested scopes, a threshold that rises while entries are held, and a context. -/
def nestedCourse : List Request :=
  [.openScope, .log .info 0.0 "held" none, .openScope, .pushContext ⟨"sphere", "buoyancy"⟩,
    .log .warning 1.0 "delivered within" none, .closeScope, .setThreshold .error,
    .log .warning 2.0 "dropped" none, .log .error 3.0 "held still" none].map
      fun command => ⟨sharedService, "main", none, command⟩

theorem nested_course_conserves :
    (∀ r ∈ nestedCourse, r.service = sharedService ∧ r.command.logsInScopes = true) ∧
      (watched.service sharedService).Compliant ∧ (watched.service sharedService).buffering = false ∧
      (watched.service sharedService).held = [] ∧ watched.scopes = [] ∧
      (watched.outlook sharedService).accepted (nestedCourse.map (·.command)) =
        [⟨.info, 0.0, "held", {}⟩, ⟨.warning, 1.0, "delivered within", ⟨"sphere", "buoyancy"⟩⟩,
          ⟨.error, 3.0, "held still", ⟨"sphere", "buoyancy"⟩⟩] ∧
      ∃ t, watched.after nestedCourse = some t ∧
        List.Forall₂ (fun before after => Slot.Continues before after ∧
            after.entries ++ after.admitted (t.service sharedService).pending = before.entries ++
              before.admitted ((watched.outlook sharedService).accepted (nestedCourse.map (·.command))))
          (watched.service sharedService).slots (t.service sharedService).slots ∧
        (t.scopes = [] → (t.service sharedService).held = []) := by
  have hr : ∀ r ∈ nestedCourse, r.service = sharedService ∧ r.command.logsInScopes = true := by
    intro r hm
    obtain ⟨command, hm, rfl⟩ := List.mem_map.mp hm
    exact ⟨rfl, by revert command; simp [Command.logsInScopes]⟩
  exact ⟨hr, watched_compliant, rfl, rfl, rfl, rfl,
    scoped_logging_conserves sharedService watched nestedCourse hr watched_compliant rfl rfl rfl⟩

end Session
end Flotation
