import Flotation.Proofs.Session.Contexts
import Flotation.Proofs.Session.FailingSinks
import Flotation.Proofs.Simulator.Rejection

/-! Deliveries that a sink breaks off: who has got the batch by then, and what the service is left with. What was
to be flushed stays held, and the next flush that nobody refuses hands all of it to every sink. -/
namespace Flotation
open Flotation.Action

/-- The act does not take anything from what is held. -/
def Act.retains : Act → Bool
  | .flush | .dropHeld => false
  | _ => true

namespace Slot

/-- Of all sinks the one at a place is the first that refuses a batch, for this reason. -/
structure FirstRefusal (batch : List Entry) (slots : List Slot) (place : Nat) (reason : String) : Prop where
  earlier : ∀ slot ∈ slots.take place, slot.objection batch = none
  refuses : ∃ slot, slots[place]? = some slot ∧ slot.objection batch = some reason

namespace FirstRefusal
variable {batch : List Entry} {slots : List Slot} {place : Nat} {reason : String}

theorem complaint_eq (h : FirstRefusal batch slots place reason) :
    slots.findSome? (·.objection batch) = some reason := by
  obtain ⟨slot, hs, ho⟩ := h.refuses
  obtain ⟨hlt, rfl⟩ := List.getElem?_eq_some_iff.mp hs
  have hfirst : (slots.take place).findSome? (·.objection batch) = none := List.findSome?_eq_none_iff.mpr h.earlier
  rw [← List.take_append_drop place slots, List.findSome?_append, hfirst, Option.none_or,
    List.drop_eq_getElem_cons hlt, List.findSome?_cons, ho]

/-- The sinks up to the one that refuses have been handed the batch, and no others. -/
theorem getElem?_offered (h : FirstRefusal batch slots place reason) (k : Nat) :
    (offered batch slots)[k]? = slots[k]?.map fun slot => if k ≤ place then slot.served batch else slot := by
  induction slots generalizing place k with
  | nil => rfl
  | cons first rest ih =>
    rw [offered]
    obtain ⟨slot, hs, ho⟩ := h.refuses
    cases place with
    | zero =>
      obtain rfl := Option.some.inj hs
      rw [ho]
      cases k with
      | zero => rfl
      | succ k => simp
    | succ place =>
      obtain ⟨hf, hr⟩ := List.forall_mem_cons.mp h.earlier
      rw [hf]
      cases k with
      | zero => rfl
      | succ k => simpa using ih ⟨hr, slot, hs, ho⟩ k

/-- Nobody refuses an empty batch. -/
theorem ne_nil (h : FirstRefusal batch slots place reason) : batch ≠ [] := by
  rintro rfl
  obtain ⟨slot, -, ho⟩ := h.refuses
  cases ho

end FirstRefusal
end Slot

namespace Service

/-- A batch was offered to the sinks of a service, and the one at a place was the last that got it. Nothing but
the sinks has changed. -/
structure Interrupted (batch : List Entry) (place : Nat) (before after : Service) : Prop where
  held_eq : after.held = before.held
  threshold_eq : after.threshold = before.threshold
  buffering_eq : after.buffering = before.buffering
  slot_eq : ∀ k, after.slots[k]? =
    before.slots[k]?.map fun slot => if k ≤ place then slot.served batch else slot

theorem interrupted_offer {batch : List Entry} {place : Nat} {reason : String} {s : Service}
    (h : Slot.FirstRefusal batch s.slots place reason) : s.Interrupted batch place (s.offer batch) :=
  ⟨rfl, rfl, rfl, h.getElem?_offered⟩

theorem pending_undergo {act : Act} (h : act.retains = true) (s : Service) :
    ∃ more, (s.undergo act).pending = s.pending ++ more := by
  cases act with
  | log entry =>
    rw [undergo]
    split_ifs
    · exact ⟨[entry], pending_hold _ _⟩
    · exact ⟨[], (List.append_nil _).symm⟩
    · exact ⟨[], (List.append_nil _).symm⟩
  | buffer | setThreshold | attachSink | detachSinks | newLedger => exact ⟨[], (List.append_nil _).symm⟩
  | flush | dropHeld => cases h

/-- Until the next flush everything that is held stays held, and more may come behind it. -/
theorem pending_foldl_undergo {acts : List Act} (h : ∀ act ∈ acts, act.retains = true) (s : Service) :
    ∃ more, (acts.foldl undergo s).pending = s.pending ++ more := by
  induction acts generalizing s with
  | nil => exact ⟨[], (List.append_nil _).symm⟩
  | cons act rest ih =>
    obtain ⟨ha, hr⟩ := List.forall_mem_cons.mp h
    obtain ⟨more, hm⟩ := pending_undergo ha s
    obtain ⟨later, hl⟩ := ih hr (s.undergo act)
    exact ⟨more ++ later, by rw [List.foldl_cons, hl, hm, List.append_assoc]⟩

end Service

namespace Station
variable {place : Nat} {reason : String}

theorem dispatch_interrupted {batch : List Entry} (st : Station)
    (h : Slot.FirstRefusal batch st.service.slots place reason) :
    ∃ st', (dispatch batch).run st = (.raised (.sink reason), st') ∧ st'.service = st.service.offer batch := by
  obtain ⟨hs, -, -⟩ := dispatch_offers batch st
  rw [dispatch_run, deliver_complaint_eq, h.complaint_eq] at hs ⊢
  exact ⟨_, rfl, hs⟩

theorem flush_interrupted (st : Station)
    (h : Slot.FirstRefusal st.service.pending st.service.slots place reason) :
    ∃ st', flush.run st = (.raised (.sink reason), st') ∧ st'.service = st.service.offer st.service.pending := by
  obtain ⟨st', hr, hs⟩ := dispatch_interrupted st h
  have hh : (!st.service.held.isEmpty) = true := by
    rw [Bool.not_eq_true', List.isEmpty_eq_false_iff]
    exact fun hn => h.ne_nil (Service.pending_eq_nil.mpr hn)
  refine ⟨st', ?_, hs⟩
  rw [flush, run_bind_returned (run_read _ st), if_pos hh, run_bind_raised hr]

theorem logEntry_interrupted (entry : Entry) (st : Station)
    (ha : st.service.accepts entry.level = true) (hb : st.service.buffering = false)
    (h : Slot.FirstRefusal [entry] st.service.slots place reason) :
    ∃ st', (logEntry entry).run st = (.raised (.sink reason), st') ∧
      st'.service = (st.service.enter entry).offer [entry] := by
  rcases logEntry_cases entry st with ⟨hn, -⟩ | ⟨-, ⟨hn, -⟩ | ⟨-, hr⟩⟩
  · rw [ha] at hn
    cases hn
  · rw [hb] at hn
    cases hn
  · rw [hr]
    exact dispatch_interrupted { st with service := st.service.enter entry } h

end Station

namespace Session
variable {name : String} {s : Session} {r : Request}

theorem flush_breaks_off {place : Nat} {reason : String}
    (h : Slot.FirstRefusal (s.service name).pending (s.service name).slots place reason)
    (hn : r.service = name) (hc : r.command = .flush) :
    ∃ t, (perform r).run s = (.raised (.sink reason), t) ∧
      t.service name = (s.service name).offer (s.service name).pending := by
  obtain ⟨st, hr, hs⟩ := Station.flush_interrupted (stationFor name s) h
  obtain ⟨owner, simulator, console, command⟩ := r
  cases hn
  cases hc
  exact ⟨_, atService_raised hr, (service_settle _ st s).trans hs⟩

theorem flush_delivers (h : ∀ slot ∈ (s.service name).slots, slot.objection (s.service name).pending = none)
    (hn : r.service = name) (hc : r.command = .flush) :
    ∃ t, (perform r).run s = (.returned .nothing, t) ∧ t.service name = (s.service name).flushed := by
  have hr : Slot.someRefuse (stationFor name s).service.pending (stationFor name s).service.slots = false := by
    rw [service_stationFor]
    exact Slot.someRefuse_eq_false.mpr h
  obtain ⟨owner, simulator, console, command⟩ := r
  cases hn
  cases hc
  exact ⟨_, atService_returned (Station.flush_accepted hr), service_settle _ _ s⟩

theorem log_breaks_off {level : Level} {time : Float} {message : String} {context : Option Context}
    {place : Nat} {reason : String} (hb : (s.service name).buffering = false)
    (ha : (s.service name).accepts level = true)
    (h : Slot.FirstRefusal [⟨level, time, message, context.getD s.station.context⟩] (s.service name).slots place
      reason)
    (hn : r.service = name) (hc : r.command = .log level time message context) :
    ∃ t, (perform r).run s = (.raised (.sink reason), t) ∧
      t.service name = ((s.service name).enter ⟨level, time, message, context.getD s.station.context⟩).offer
        [⟨level, time, message, context.getD s.station.context⟩] := by
  obtain ⟨st, hr, hs⟩ := Station.logEntry_interrupted
    ⟨level, time, message, context.getD s.station.context⟩ (stationFor name s) ha hb h
  obtain ⟨owner, simulator, console, command⟩ := r
  cases hn
  cases hc
  rw [log_run]
  exact ⟨_, atService_raised hr, (service_settle _ st s).trans hs⟩

/-- While the service is buffering, no sink has a say in what is logged. -/
theorem log_held {level : Level} {time : Float} {message : String} {context : Option Context}
    (hb : (s.service name).buffering = true) (hn : r.service = name)
    (hc : r.command = .log level time message context) :
    ∃ t, (perform r).run s = (.returned .nothing, t) ∧ (t.service name).slots = (s.service name).slots := by
  obtain ⟨owner, simulator, console, command⟩ := r
  cases hn
  cases hc
  rw [log_run]
  rcases Station.logEntry_cases ⟨level, time, message, context.getD s.station.context⟩ (stationFor owner s) with
    ⟨-, hr⟩ | ⟨-, ⟨-, hr⟩ | ⟨hf, -⟩⟩
  · exact ⟨_, atService_returned hr, by rw [service_settle]; rfl⟩
  · exact ⟨_, atService_returned hr, by rw [service_settle]; rfl⟩
  · rw [service_stationFor, hb] at hf
    cases hf

/-- The first sink to refuse a batch determines what is left of its delivery. A flush that is broken off raises
the reason, with the sinks up to that one served and the service otherwise as it was; whatever is still held when
no sink has anything against it, and that is all of it and perhaps more, goes to every sink with the next flush. A
message that is delivered at once and refused counts and is not held, with the sinks up to that one served. A
message that is to be held is not refused. -/
theorem refused_delivery_leaves (name : String) (s : Session) (r : Request) (hn : r.service = name) :
    (r.command = .flush → ∀ place reason,
      Slot.FirstRefusal (s.service name).pending (s.service name).slots place reason →
      ∃ t, (perform r).run s = (.raised (.sink reason), t) ∧
        (s.service name).Interrupted (s.service name).pending place (t.service name) ∧
        (∀ level, (t.service name).count level = (s.service name).count level) ∧
        ∀ requests u, t.after requests = some u → (∀ act ∈ t.course name requests, act.retains = true) →
          (∃ more, (u.service name).pending = (s.service name).pending ++ more) ∧
          ((∀ slot ∈ (u.service name).slots, slot.objection (u.service name).pending = none) →
            ∃ v, (perform r).run u = (.returned .nothing, v) ∧ v.service name = (u.service name).flushed)) ∧
    ∀ level time message context entry, r.command = .log level time message context →
      entry = ⟨level, time, message, context.getD s.station.context⟩ →
      ((s.service name).buffering = true →
        ∃ t, (perform r).run s = (.returned .nothing, t) ∧ (t.service name).slots = (s.service name).slots) ∧
      ((s.service name).buffering = false → (s.service name).accepts level = true → ∀ place reason,
        Slot.FirstRefusal [entry] (s.service name).slots place reason →
        ∃ t, (perform r).run s = (.raised (.sink reason), t) ∧
          (s.service name).Interrupted [entry] place (t.service name) ∧
          ∀ other, (t.service name).count other =
            (s.service name).count other + if level = other then 1 else 0) := by
  refine ⟨fun hc place reason h => ?_, ?_⟩
  · obtain ⟨t, hr, ht⟩ := flush_breaks_off h hn hc
    refine ⟨t, hr, ?_, fun level => ?_, fun requests u hu hk => ⟨?_, fun hw => flush_delivers hw hn hc⟩⟩
    · rw [ht]
      exact Service.interrupted_offer h
    · rw [ht]
      rfl
    · have hp : (t.service name).pending = (s.service name).pending := by rw [ht]; rfl
      have hs : u.service name = (t.course name requests).foldl Service.undergo (t.service name) :=
        (after_undergoes name hu).service_eq
      rw [hs, ← hp]
      exact Service.pending_foldl_undergo hk _
  · rintro level time message context entry hc rfl
    refine ⟨fun hb => log_held hb hn hc, fun hb ha place reason h => ?_⟩
    obtain ⟨t, hr, ht⟩ := log_breaks_off hb ha h hn hc
    refine ⟨t, hr, ?_, fun other => by rw [ht]; exact Service.count_enter _ _ other⟩
    rw [ht]
    exact ⟨rfl, rfl, rfl, h.getElem?_offered⟩

/-- One message is held for a sink that admits warnings only, one that is willing, one that is reluctant, and
another willing one. -/
def pressed : Session :=
  let held : List Entry := [⟨.info, 0.0, "first", {}⟩]
  let grave : Slot := ⟨.into (.batches "grave"), .warning, []⟩
  { station :=
      { service := { slots := [grave, willing, reluctant, willing], held, ledger := held, buffering := true } } }

/-- The reluctant sink breaks off the first flush. The second gives it everything. A message it breaks off is not
held. -/
theorem pressed_delivery_leaves :
    Slot.FirstRefusal (pressed.service sharedService).pending (pressed.service sharedService).slots 2
        "log sink failed" ∧
      ∃ t u v, (perform (byHand .flush)).run pressed = (.raised (.sink "log sink failed"), t) ∧
        (pressed.service sharedService).Interrupted [⟨.info, 0.0, "first", {}⟩] 2 (t.service sharedService) ∧
        t.after [byHand (.log .info 1.0 "second" none)] = some u ∧
        (perform (byHand .flush)).run u = (.returned .nothing, v) ∧
        v.service sharedService = (u.service sharedService).flushed ∧
        (v.service sharedService).slots.map Slot.entries =
          [[], [⟨.info, 0.0, "first", {}⟩, ⟨.info, 0.0, "first", {}⟩, ⟨.info, 1.0, "second", {}⟩],
            [⟨.info, 0.0, "first", {}⟩, ⟨.info, 0.0, "first", {}⟩, ⟨.info, 1.0, "second", {}⟩],
            [⟨.info, 0.0, "first", {}⟩, ⟨.info, 1.0, "second", {}⟩]] ∧
      ∃ t, (perform (byHand (.log .info 0.0 "lost" none))).run (withSlots [reluctant, willing]) =
          (.raised (.sink "log sink failed"), t) ∧
        ((withSlots [reluctant, willing]).service sharedService).Interrupted [⟨.info, 0.0, "lost", {}⟩] 0
          (t.service sharedService) ∧
        (t.service sharedService).count .info = 1 := by
  have h : Slot.FirstRefusal (pressed.service sharedService).pending (pressed.service sharedService).slots 2
      "log sink failed" := by
    refine ⟨?_, reluctant, rfl, rfl⟩
    exact List.forall_mem_cons.mpr ⟨rfl, List.forall_mem_singleton.mpr rfl⟩
  obtain ⟨t, ht, hi, -, hlater⟩ :=
    (refused_delivery_leaves sharedService pressed (byHand .flush) rfl).1 rfl 2 "log sink failed" h
  obtain rfl : _ = t := congrArg Prod.snd ht
  obtain ⟨-, hflush⟩ := hlater [byHand (.log .info 1.0 "second" none)] _ rfl
    (List.forall_mem_singleton.mpr rfl)
  obtain ⟨v, hv, hs⟩ := hflush (List.forall_mem_cons.mpr ⟨rfl, List.forall_mem_cons.mpr ⟨rfl,
    List.forall_mem_cons.mpr ⟨rfl, List.forall_mem_singleton.mpr rfl⟩⟩⟩)
  obtain ⟨w, hw, hlost, hcount⟩ := ((refused_delivery_leaves sharedService (withSlots [reluctant, willing])
    (byHand (.log .info 0.0 "lost" none)) rfl).2 .info 0.0 "lost" none ⟨.info, 0.0, "lost", {}⟩ rfl rfl).2 rfl rfl 0
    "log sink failed" ⟨List.forall_mem_nil _, reluctant, rfl, rfl⟩
  exact ⟨h, _, _, v, ht, hi, rfl, hv, hs, by rw [hs]; rfl, w, hw, hlost, hcount .info⟩

end Session
end Flotation
