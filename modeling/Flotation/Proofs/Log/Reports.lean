import Flotation.Proofs.Simulator.LogActs

/-! Faults that are reported before they are raised: where the parts of the entry come from, and what becomes of
it at a service none of whose sinks refuses it. -/
namespace Flotation
open Flotation.Action

namespace Slot

/-- A single entry is handed to a sink or it is not. -/
theorem served_singleton (entry : Entry) (s : Slot) :
    s.served [entry] = if s.threshold ≤ entry.level then s.handed [entry] else s := by
  by_cases h : s.threshold ≤ entry.level <;> simp [served, admitted, h]

theorem written_singleton (entry : Entry) (s : Slot) (outlets : Outlets) :
    s.written [entry] outlets =
      if s.threshold ≤ entry.level then outlets.receive [entry] s.sink.target else outlets := by
  by_cases h : s.threshold ≤ entry.level <;> simp [written, admitted, h]

end Slot

namespace Station

/-- The entry is in the ledger, and it is held behind all others or it was handed alone to every sink that is
given its level. That is all that has changed. -/
structure Takes (entry : Entry) (before after : Station) : Prop where
  ledger_eq : after.service.ledger = entry :: before.service.ledger
  count_eq : ∀ level, after.service.count level =
    before.service.count level + if entry.level = level then 1 else 0
  held : before.service.buffering = true →
    after.service.pending = before.service.pending ++ [entry] ∧
      after.service.slots = before.service.slots ∧ after.outlets = before.outlets
  handed : before.service.buffering = false →
    after.service.pending = before.service.pending ∧
      after.service.slots = before.service.slots.map (fun slot =>
        if slot.threshold ≤ entry.level then slot.handed [entry] else slot) ∧
      after.outlets = before.service.slots.foldl (fun outlets slot =>
        if slot.threshold ≤ entry.level then outlets.receive [entry] slot.sink.target else outlets)
        before.outlets
  threshold_eq : after.service.threshold = before.service.threshold
  buffering_eq : after.service.buffering = before.service.buffering
  context_eq : after.context = before.context
  serials_eq : after.serials = before.serials

theorem takes_hold {entry : Entry} {st : Station} (hb : st.service.buffering = true) :
    st.Takes entry { st with service := (st.service.enter entry).hold entry } where
  ledger_eq := rfl
  count_eq := st.service.count_enter entry
  held _ := ⟨(st.service.enter entry).pending_hold entry, rfl, rfl⟩
  handed hn := by
    rw [hb] at hn
    cases hn
  threshold_eq := rfl
  buffering_eq := rfl
  context_eq := rfl
  serials_eq := rfl

theorem takes_distribute {entry : Entry} {st : Station} (hb : st.service.buffering = false) :
    st.Takes entry { st with
      service := (st.service.enter entry).distribute [entry]
      outlets := st.service.slots.foldl (fun o slot => slot.written [entry] o) st.outlets } where
  ledger_eq := rfl
  count_eq := st.service.count_enter entry
  held hn := by
    rw [hb] at hn
    cases hn
  handed _ := by
    refine ⟨rfl, ?_, ?_⟩
    · exact List.map_congr_left fun slot _ => slot.served_singleton entry
    · simp only [Slot.written_singleton]
  threshold_eq := rfl
  buffering_eq := rfl
  context_eq := rfl
  serials_eq := rfl

/-- Logging an entry that no sink refuses returns. The entry is taken, or the service does not accept its level
and nothing happens. -/
theorem logEntry_accepted {entry : Entry} {st : Station}
    (h : ∀ slot ∈ st.service.slots, slot.objection [entry] = none) :
    ∃ after, (logEntry entry).run st = (.returned (), after) ∧
      if st.service.accepts entry.level then st.Takes entry after else after = st := by
  rcases logEntry_cases entry st with ⟨ha, hr⟩ | ⟨ha, ⟨hb, hr⟩ | ⟨hb, hr⟩⟩ <;> rw [ha, hr]
  · exact ⟨st, rfl, rfl⟩
  · exact ⟨_, rfl, takes_hold hb⟩
  · have hn : Slot.someRefuse [entry] (st.service.enter entry).slots = false := Slot.someRefuse_eq_false.mpr h
    exact ⟨_, dispatch_accepted hn, takes_distribute hb⟩

/-- The fault is raised once its entry is through. -/
theorem run_reject_returned {α : Type} {fault : Fault} {time : Float} {component : String} {st after : Station}
    (h : (logEntry (fault.entry time component st.context)).run st = (.returned (), after)) :
    (reject fault time component : Action Station α).run st = (.raised (.fault fault), after) := by
  have hr : (report fault time component).run st = (.returned (), after) := h
  rw [reject, run_bind_returned hr, run_raise]

/-- If no sink refuses the entry for it, a fault is raised as it is, and before that it is logged once, as any other
entry is. The entry has the level of the fault's severity, the time given, all of the fault's text and the entity of
the context; its component is the one given, or else the category of the fault. A service that does not accept the
level is left as it was. -/
theorem fault_recorded_then_raised {α : Type} (fault : Fault) (time : Float) (component : String) (st : Station)
    (h : ∀ slot ∈ st.service.slots, slot.objection [fault.entry time component st.context] = none) :
    ∃ entry after,
      (reject fault time component : Action Station α).run st = (.raised (.fault fault), after) ∧
      (logEntry entry).run st = (.returned (), after) ∧
      entry = ⟨fault.severity.level, time, fault.message,
        ⟨st.context.entity, if component = "" then fault.category else component⟩⟩ ∧
      if st.service.accepts fault.severity.level then st.Takes entry after else after = st := by
  obtain ⟨after, hr, ht⟩ := logEntry_accepted h
  refine ⟨fault.entry time component st.context, after, run_reject_returned hr, hr, ?_, ht⟩
  rw [Fault.entry]
  simp only [String.isEmpty_iff]

/-- A service with one sink for everything and one for what is fatal, used under a context. -/
def harbour : Station :=
  { service := { slots := [⟨.into (.entries "all"), .trace, []⟩, ⟨.into (.entries "worst"), .fatal, []⟩] }
    context := ⟨"sphere", "buoyancy"⟩ }

/-- A refused tick is attributed to its category and not to the component of the context. -/
theorem harbour_records_refused_tick :
    ∃ fault after,
      fault = .tick .negative (some ⟨0.5, -0.25⟩) ∧
      (∀ slot ∈ harbour.service.slots, slot.objection [fault.entry 0.5 "" harbour.context] = none) ∧
      harbour.service.accepts fault.severity.level = true ∧
      (reject fault 0.5 "" : Action Station Unit).run harbour = (.raised (.fault fault), after) ∧
      after.service.count .error = 1 ∧ after.service.count .fatal = 0 ∧
      after.service.slots.map (·.entries) =
        [[⟨.error, 0.5,
          "[archimedes] Integration failed at t=0.5 s, dt=-0.25 s: elapsed time is negative",
          ⟨"sphere", "integration"⟩⟩], []] := by
  let fault := Fault.tick .negative (some ⟨0.5, -0.25⟩)
  have hm : fault.message =
      "[archimedes] Integration failed at t=0.5 s, dt=-0.25 s: elapsed time is negative" := by
    decide +kernel
  have hs : ∀ slot ∈ harbour.service.slots, slot.objection [fault.entry 0.5 "" harbour.context] = none := by
    simp only [harbour, List.forall_mem_cons]
    exact ⟨rfl, rfl, nofun⟩
  obtain ⟨entry, after, hr, -, he, ht⟩ := fault_recorded_then_raised (α := Unit) fault 0.5 "" harbour hs
  have htakes : harbour.Takes entry after := ht
  refine ⟨fault, after, rfl, hs, rfl, hr, ?_, ?_, ?_⟩
  · rw [htakes.count_eq, he]
    rfl
  · rw [htakes.count_eq, he]
    rfl
  · rw [(htakes.handed rfl).2.1, he, hm]
    rfl

end Station
end Flotation
