import Flotation.Proofs.Log.Posts
import Flotation.Proofs.Session.Course

/-! Logging by hand to sinks of which some refuse batches: what one that never refuses is given in the end,
entry by entry. -/
namespace Flotation
open Flotation.Action

/-- Messages, flushes, and buffering that is switched on and off. -/
def Command.logsByHand : Command → Bool
  | .log .. | .buffer _ | .flush => true
  | _ => false

namespace Session

/-- The entries that are found before each of some requests, up to one that aborts the program. -/
def gather (find : Session → Command → List Entry) (s : Session) : List Request → List Entry
  | [] => []
  | r :: rest =>
    find s r.command ++
      match (perform r).run s with
      | (.aborted, _) => []
      | (_, t) => t.gather find rest

/-- What a command has the sink at a place miss: the entry that it logs, if a sink before it refuses it. -/
def missed (name : String) (place : Nat) (s : Session) : Command → List Entry
  | .log level time message context =>
    (s.service name).missed place ⟨level, time, message, context.getD s.station.context⟩
  | _ => []

/-- What a command hands to the sink at a place and leaves to be handed to it again: what it flushes, if a
sink behind it refuses that. -/
def repeated (name : String) (place : Nat) (s : Session) : Command → List Entry
  | .flush => (s.service name).repeated place
  | _ => []

variable {name : String} {place : Nat} {s : Session}

theorem gather_cons (find : Session → Command → List Entry) {r : Request}
    (h : ((perform r).run s).1 ≠ .aborted) (rest : List Request) :
    s.gather find (r :: rest) = find s r.command ++ ((perform r).run s).2.gather find rest := by
  rw [gather]
  rcases hr : (perform r).run s with ⟨outcome, t⟩
  cases outcome with
  | returned _ => rfl
  | raised _ => rfl
  | aborted => exact absurd (congrArg Prod.fst hr) h

/-- How a session goes on from one post to the next. -/
structure Passage (name : String) (command : Command) (s t : Session) (p q : Post place) : Prop where
  service_eq : q.service = t.service name
  outlook_eq : t.outlook name = s.outlook name
  deals : p.Deals ((s.outlook name).entries command) (missed name place s command)
    (repeated name place s command) q

/-- An operation of the service alone. -/
private theorem atService_passes {command : Command} {x : Action Station Unit} {p q : Post place}
    (hk : Keeps (fun st => (st.context, st.service.threshold)) x)
    (hq : q.service = (x.run (stationFor name s)).2.service)
    (hd : p.Deals ((s.outlook name).entries command) (missed name place s command)
      (repeated name place s command) q) :
    ((quietly (atService name x)).run s).1 ≠ .aborted ∧
      Passage name command s ((quietly (atService name x)).run s).2 p q := by
  have ha := (keeps_atService name hk).bind fun _ => Keeps.pure Answer.nothing
  refine ⟨(ha s).1, ?_, (ha s).2, hd⟩
  rw [quietly_state, run_atService, service_settle, hq]

private theorem log_passes {p : Post place} (hp : p.service = s.service name) (level : Level) (time : Float)
    (message : String) (context : Option Context) :
    ∃ q : Post place,
      ((quietly (atService name (Station.logEntry
        ⟨level, time, message, context.getD s.station.context⟩))).run s).1 ≠ .aborted ∧
      Passage name (.log level time message context) s ((quietly (atService name (Station.logEntry
        ⟨level, time, message, context.getD s.station.context⟩))).run s).2 p q := by
  have hst : (stationFor name s).service = p.service := hp.symm
  obtain ⟨q, hq, hd⟩ := Post.Deals.of_logEntry hst ⟨level, time, message, context.getD s.station.context⟩
  refine ⟨q, atService_passes ((Station.keeps_logEntry _).mono fun view => (view.1, view.2.1)) hq ?_⟩
  rw [entries_log, ← hp, missed, ← hp]
  exact hd

private theorem flush_passes {p : Post place} (hp : p.service = s.service name) :
    ∃ q : Post place, ((quietly (atService name Station.flush)).run s).1 ≠ .aborted ∧
      Passage name .flush s ((quietly (atService name Station.flush)).run s).2 p q := by
  have hst : (stationFor name s).service = p.service := hp.symm
  obtain ⟨q, hq, hd⟩ := Post.Deals.of_flush hst
  refine ⟨q, atService_passes (Station.keeps_flush.mono fun view => (view.1, view.2.1)) hq ?_⟩
  rw [repeated, ← hp]
  exact hd

/-- Of a flush that returns nothing is left to repeat. -/
private theorem flush_completes {p : Post place} (hp : p.service = s.service name) {answer : Answer}
    {t : Session} (h : (quietly (atService name Station.flush)).run s = (.returned answer, t)) :
    ∃ q : Post place, q.service = t.service name ∧ q.service.held = [] ∧ p.Deals [] [] [] q := by
  obtain ⟨q, _, hq, _, hd⟩ := flush_passes hp
  obtain ⟨st, hst, rfl⟩ := quietly_atService_returned h
  have hr : repeated name place s .flush = [] := Service.repeated_of_flush_returned hst
  rw [h] at hq
  rw [hr] at hd
  refine ⟨q, hq, ?_, hd⟩
  rw [hq, service_settle]
  exact Station.held_of_flush_returned hst

private theorem buffer_passes {p : Post place} (hp : p.service = s.service name) (buffering : Bool) :
    ∃ q : Post place,
      ((quietly (atService name (Station.onService (·.buffer buffering)))).run s).1 ≠ .aborted ∧
      Passage name (.buffer buffering) s
        ((quietly (atService name (Station.onService (·.buffer buffering)))).run s).2 p q := by
  have hs : (p.service.buffer buffering).slots = p.service.slots := rfl
  have hh : (p.service.buffer buffering).pending = p.service.pending ++ [] := (List.append_nil _).symm
  refine ⟨p.keep _ hs, atService_passes (.update fun _ => rfl) ?_ (.of_held hs hh)⟩
  rw [Station.run_onService, service_stationFor, ← hp]
  rfl

/-- One command of logging by hand. -/
theorem perform_passes {p : Post place} (hp : p.service = s.service name) {r : Request}
    (hr : r.service = name) (hc : r.command.logsByHand = true) :
    ∃ q : Post place, ((perform r).run s).1 ≠ .aborted ∧
      Passage name r.command s ((perform r).run s).2 p q := by
  obtain ⟨owner, simulator, console, command⟩ := r
  cases hr
  cases command with
  | log level time message context =>
    rw [log_run]
    exact log_passes hp level time message context
  | buffer buffering => exact buffer_passes hp buffering
  | flush => exact flush_passes hp
  | _ => cases hc

/-- A whole course of logging by hand. -/
theorem after_passes {p : Post place} (hp : p.service = s.service name) {requests : List Request}
    (hr : ∀ r ∈ requests, r.service = name ∧ r.command.logsByHand = true) :
    ∃ t, ∃ q : Post place, s.after requests = some t ∧ q.service = t.service name ∧
      p.Deals ((s.outlook name).accepted (requests.map (·.command))) (s.gather (missed name place) requests)
        (s.gather (repeated name place) requests) q := by
  induction requests generalizing s p with
  | nil => exact ⟨s, p, rfl, hp, .refl p⟩
  | cons r rest ih =>
    obtain ⟨⟨hn, hc⟩, hrest⟩ := List.forall_mem_cons.mp hr
    obtain ⟨q, ha, hq, ho, hd⟩ := perform_passes hp hn hc
    obtain ⟨t, u, ht, hu, hrd⟩ := ih hq hrest
    have he : (s.outlook name).after r.command = s.outlook name := by
      revert hc
      cases r.command <;> simp [Command.logsByHand, Outlook.after]
    refine ⟨t, u, (after_cons ha rest).trans ht, hu, ?_⟩
    rw [gather_cons _ ha, gather_cons _ ha, List.map_cons, Outlook.accepted, he]
    rw [ho] at hrd
    exact hd.trans hrd

/-- The entries that the sink at a place is to be given, if its level admits them and it misses none: the
ones that were held, the ones that are accepted, and once more what is repeated. -/
def offered (name : String) (place : Nat) (s : Session) (requests : List Request) : List Entry :=
  (s.service name).pending ++
    ((s.outlook name).accepted (requests.map (·.command)) ++ s.gather (repeated name place) requests)

/-- In any course of logging by hand, whichever sinks refuse what, a sink that never refuses has got, or is
still to get, every entry it admits once, but for two cases. An entry delivered at once is missed if a sink
before it refuses it, and entries held are repeated when a flush fails at a sink behind it. A flush that
returns gives it whatever is held. -/
theorem failing_sinks_account (name : String) (place : Nat) (s : Session) (requests : List Request)
    (hr : ∀ r ∈ requests, r.service = name ∧ r.command.logsByHand = true) {slot : Slot}
    (hs : (s.service name).slots[place]? = some slot) (hc : slot.Compliant) :
    ∃ t slot', s.after requests = some t ∧ (t.service name).slots[place]? = some slot' ∧
      slot.Continues slot' ∧
      (slot'.entries ++ slot.admitted ((t.service name).pending ++
          s.gather (missed name place) requests)).Perm
        (slot.entries ++ slot.admitted (offered name place s requests)) ∧
      (s.gather (missed name place) requests).Sublist
        ((s.outlook name).accepted (requests.map (·.command))) ∧
      ((∀ sink ∈ (s.service name).slots.take place, sink.Compliant) →
        s.gather (missed name place) requests = []) ∧
      ((∀ sink ∈ (s.service name).slots.drop (place + 1), sink.Compliant) →
        s.gather (repeated name place) requests = []) ∧
      ∀ r answer u, r.service = name → r.command = .flush → (perform r).run t = (.returned answer, u) →
        (u.service name).held = [] ∧ ∃ last, (u.service name).slots[place]? = some last ∧
          (last.entries ++ slot.admitted (s.gather (missed name place) requests)).Perm
            (slot.entries ++ slot.admitted (offered name place s requests)) := by
  have hp : (⟨s.service name, slot, hs, hc⟩ : Post place).service = s.service name := rfl
  obtain ⟨t, q, ht, hq, hd⟩ := after_passes hp hr
  refine ⟨t, q.slot, ht, ?_, hd.slot, ?_, hd.missed_sublist, hd.missed_eq_nil, hd.repeated_eq_nil, ?_⟩
  · rw [← hq]
    exact q.slot_eq
  · rw [← hq]
    exact hd.given
  · intro r answer u hn hf hu
    rw [perform, hf, hn] at hu
    obtain ⟨last, hl, hheld, hld⟩ := flush_completes hq hu
    have hgiven := (hd.trans hld).given
    rw [Service.pending_eq_nil.mpr hheld, List.append_nil, List.append_nil, List.append_nil,
      List.nil_append] at hgiven
    refine ⟨?_, last.slot, ?_, hgiven⟩
    · rw [← hl]
      exact hheld
    · rw [← hl]
      exact last.slot_eq

/-- A sink that never refuses. -/
def willing : Slot := ⟨.into (.batches "good"), .trace, []⟩

/-- A sink that refuses its first batch. -/
def reluctant : Slot := ⟨.failing 1 (.batches "bad"), .trace, []⟩

def withSlots (slots : List Slot) : Session := { station := { service := { slots } } }

def byHand (command : Command) : Request := ⟨sharedService, "main", none, command⟩

/-- The flush that fails is followed by one that returns. -/
def repeatedCourse : List Request :=
  [byHand (.buffer true), byHand (.log .info 0.0 "repeated" none), byHand .flush]

theorem willing_compliant : willing.Compliant := fun _ => rfl

theorem repeated_course_account :
    (∀ r ∈ repeatedCourse, r.service = sharedService ∧ r.command.logsByHand = true) ∧
      ((withSlots [willing, reluctant]).service sharedService).slots[0]? = some willing ∧ willing.Compliant ∧
      (withSlots [willing, reluctant]).gather (repeated sharedService 0) repeatedCourse =
        [⟨.info, 0.0, "repeated", {}⟩] ∧
      ∃ t slot', (withSlots [willing, reluctant]).after repeatedCourse = some t ∧
        (t.service sharedService).slots[0]? = some slot' ∧ willing.Continues slot' ∧
        (slot'.entries ++ willing.admitted ((t.service sharedService).pending ++
            (withSlots [willing, reluctant]).gather (missed sharedService 0) repeatedCourse)).Perm
          (willing.entries ++ willing.admitted
            (offered sharedService 0 (withSlots [willing, reluctant]) repeatedCourse)) ∧
        ∃ answer u, (perform (byHand .flush)).run t = (.returned answer, u) ∧
          (u.service sharedService).held = [] := by
  have hr : ∀ r ∈ repeatedCourse, r.service = sharedService ∧ r.command.logsByHand = true := by
    intro r hm
    simp only [repeatedCourse, List.mem_cons, List.not_mem_nil, or_false] at hm
    rcases hm with rfl | rfl | rfl <;> exact ⟨rfl, rfl⟩
  refine ⟨hr, rfl, willing_compliant, rfl, ?_⟩
  obtain ⟨t, slot', ht, hs, hc, hg, _, _, _, hf⟩ :=
    failing_sinks_account sharedService 0 (withSlots [willing, reluctant]) repeatedCourse hr rfl willing_compliant
  refine ⟨t, slot', ht, hs, hc, hg, ?_⟩
  cases ht
  exact ⟨.nothing, _, rfl, (hf (byHand .flush) .nothing _ rfl rfl rfl).1⟩

/-- A refusal can keep an entry from the sinks behind, and have one flushed again to the sinks before. -/
theorem refusals_lose_and_repeat :
    ((withSlots [reluctant, willing]).outlook sharedService).accepted [.log .info 0.0 "lost" none] =
        [⟨.info, 0.0, "lost", {}⟩] ∧
      ((withSlots [willing, reluctant]).outlook sharedService).accepted (repeatedCourse.map (·.command)) =
        [⟨.info, 0.0, "repeated", {}⟩] ∧
      willing.Compliant ∧ (∀ batch, willing.admitted batch = batch) ∧
      (∃ t u, (withSlots [reluctant, willing]).after [byHand (.log .info 0.0 "lost" none)] = some t ∧
        (perform (byHand .flush)).run t = (.returned .nothing, u) ∧
        (u.service sharedService).slots[1]?.map Slot.entries = some []) ∧
      ∃ t u, (withSlots [willing, reluctant]).after repeatedCourse = some t ∧
        (perform (byHand .flush)).run t = (.returned .nothing, u) ∧
        (u.service sharedService).slots[0]?.map Slot.entries =
          some [⟨.info, 0.0, "repeated", {}⟩, ⟨.info, 0.0, "repeated", {}⟩] := by
  refine ⟨rfl, rfl, willing_compliant, fun batch => ?_, ⟨_, _, rfl, rfl, rfl⟩, ⟨_, _, rfl, rfl, rfl⟩⟩
  rw [Slot.admitted, List.filter_eq_self]
  intro entry _
  cases entry.level <;> rfl

end Session
end Flotation
