import Flotation.Proofs.Log.Delivery

/-! What the operations of a log service come to when no sink ever refuses: each of them returns, and what
it does to the service is a function of the service alone. -/
namespace Flotation

namespace Service

/-- No sink of the service ever refuses a batch. -/
def Compliant (s : Service) : Prop := ∀ slot ∈ s.slots, slot.Compliant

/-- The service holds nothing unless it is buffering. -/
def Prompt (s : Service) : Prop := s.buffering = false → s.held = []

/-- The service after all its sinks have been served a batch. -/
def distribute (batch : List Entry) (s : Service) : Service :=
  { s with slots := s.slots.map (·.served batch) }

/-- The service after an entry was logged, if no sink refuses. -/
def logged (entry : Entry) (s : Service) : Service :=
  if s.accepts entry.level then
    if s.buffering then (s.enter entry).hold entry else (s.enter entry).distribute [entry]
  else s

/-- The service after a flush, if no sink refuses. -/
def flushed (s : Service) : Service := (s.distribute s.pending).dropHeld

theorem pending_eq_nil {s : Service} : s.pending = [] ↔ s.held = [] := List.reverse_eq_nil_iff

theorem flushed_eq_self {s : Service} (h : s.held = []) : s.flushed = s := by
  have hp := pending_eq_nil.mpr h
  simp only [flushed, distribute, hp, Slot.served_nil, List.map_id', dropHeld]
  rw [← h]

@[simp] theorem threshold_logged (s : Service) (entry : Entry) :
    (s.logged entry).threshold = s.threshold := by
  unfold logged
  split_ifs <;> rfl

@[simp] theorem buffering_logged (s : Service) (entry : Entry) :
    (s.logged entry).buffering = s.buffering := by
  unfold logged
  split_ifs <;> rfl

theorem ledger_logged (s : Service) (entry : Entry) :
    (s.logged entry).ledger = if s.accepts entry.level then entry :: s.ledger else s.ledger := by
  unfold logged
  split_ifs <;> rfl

theorem Prompt.logged {s : Service} (h : s.Prompt) (entry : Entry) : (s.logged entry).Prompt := by
  intro hb
  rw [buffering_logged] at hb
  unfold Service.logged
  split_ifs with _ hs
  · rw [hb] at hs
    cases hs
  · exact h hb
  · exact h hb

theorem Compliant.distribute {s : Service} (h : s.Compliant) (batch : List Entry) :
    (s.distribute batch).Compliant := by
  intro slot hm
  obtain ⟨before, hb, rfl⟩ := List.mem_map.mp hm
  exact (before.continues_served batch).compliant (h before hb)

theorem Compliant.logged {s : Service} (h : s.Compliant) (entry : Entry) : (s.logged entry).Compliant := by
  unfold Service.logged
  split_ifs
  · exact h
  · exact Compliant.distribute h [entry]
  · exact h

end Service

namespace Station

/-- The station went on with the given service. Its outlets may have been written to, but not by an
observer of heights. -/
structure Becomes (service : Service) (before after : Station) : Prop where
  service_eq : after.service = service
  context_eq : after.context = before.context
  heights_eq : after.outlets.heights = before.outlets.heights

theorem dispatch_compliant {st : Station} (h : st.service.Compliant) (batch : List Entry) :
    ∃ st', (dispatch batch).run st = (.returned (), st') ∧
      st.Becomes (st.service.distribute batch) st' := by
  obtain ⟨hc, hs⟩ := deliver_compliant h batch st.outlets
  refine ⟨st.delivered (deliver batch st.service.slots st.outlets), ?_, ?_, rfl, ?_⟩
  · rw [dispatch_run, hc]
  · simp only [delivered, hs, Service.distribute]
  · exact heights_deliver batch st.service.slots st.outlets

/-- A batch that no sink refuses is served to them all. -/
theorem dispatch_accepted {batch : List Entry} {st : Station}
    (h : Slot.someRefuse batch st.service.slots = false) :
    (dispatch batch).run st = (.returned (), { st with
      service := st.service.distribute batch
      outlets := st.service.slots.foldl (fun o slot => slot.written batch o) st.outlets }) := by
  rw [dispatch_run, deliver_accepted h]
  rfl

theorem logEntry_compliant {st : Station} (h : st.service.Compliant) (entry : Entry) :
    ∃ st', (logEntry entry).run st = (.returned (), st') ∧
      st.Becomes (st.service.logged entry) st' := by
  rw [Service.logged]
  rcases logEntry_cases entry st with ⟨ha, hr⟩ | ⟨ha, ⟨hb, hr⟩ | ⟨hb, hr⟩⟩
  · rw [ha, if_neg Bool.false_ne_true]
    exact ⟨st, hr, rfl, rfl, rfl⟩
  · rw [ha, hb, if_pos rfl, if_pos rfl]
    exact ⟨_, hr, rfl, rfl, rfl⟩
  · rw [ha, hb, if_pos rfl, if_neg Bool.false_ne_true, hr]
    have hc : ({ st with service := st.service.enter entry } : Station).service.Compliant := h
    obtain ⟨st', hd, hs⟩ := dispatch_compliant hc [entry]
    exact ⟨st', hd, hs.service_eq, hs.context_eq, hs.heights_eq⟩

/-- The station after a flush that no sink refuses. -/
def relieved (st : Station) : Station :=
  { st with
    service := st.service.flushed
    outlets := st.service.slots.foldl (fun o slot => slot.written st.service.pending o) st.outlets }

theorem flush_accepted {st : Station} (h : Slot.someRefuse st.service.pending st.service.slots = false) :
    flush.run st = (.returned (), st.relieved) := by
  rcases flush_cases st with ⟨hh, hr⟩ | ⟨d, rfl, ⟨_, hr⟩ | ⟨reason, hn, _⟩⟩
  · have hw : ∀ slots : List Slot, slots.foldl (fun o slot => slot.written [] o) st.outlets = st.outlets := by
      intro slots
      induction slots with
      | nil => rfl
      | cons slot rest ih => exact ih
    rw [hr, relieved, Service.flushed_eq_self hh, Service.pending_eq_nil.mpr hh, hw]
  · rw [hr, deliver_accepted h]
    rfl
  · rw [deliver_accepted h] at hn
    cases hn

/-- A flush of which some sink complains raises the complaint. -/
theorem flush_refused {st : Station} (h : Slot.someRefuse st.service.pending st.service.slots = true) :
    ∃ reason, (flush.run st).1 = .raised (.sink reason) := by
  have hs := deliver_complaint st.service.pending st.service.slots st.outlets
  rw [h] at hs
  rcases flush_cases st with ⟨hh, _⟩ | ⟨d, rfl, ⟨hn, _⟩ | ⟨reason, _, hr⟩⟩
  · rw [Service.pending_eq_nil.mpr hh, Slot.someRefuse, List.any_eq_true] at h
    obtain ⟨slot, _, ho⟩ := h
    cases ho
  · rw [hn] at hs
    cases hs
  · exact ⟨reason, by rw [hr]⟩

theorem flush_compliant {st : Station} (h : st.service.Compliant) :
    ∃ st', flush.run st = (.returned (), st') ∧ st.Becomes st.service.flushed st' := by
  obtain ⟨hc, hs⟩ := deliver_compliant h st.service.pending st.outlets
  rcases flush_cases st with ⟨hh, hr⟩ | ⟨d, rfl, ⟨_, hr⟩ | ⟨reason, hn, _⟩⟩
  · exact ⟨st, hr, (Service.flushed_eq_self hh).symm, rfl, rfl⟩
  · refine ⟨_, hr, ?_, rfl, heights_deliver st.service.pending st.service.slots st.outlets⟩
    simp only [delivered, hs, Service.flushed, Service.distribute]
  · rw [hc] at hn
    cases hn

theorem closeScope_compliant {st : Station} (h : st.service.Compliant) (before : Bool) :
    ∃ st', (closeScope before).run st = (.returned (), st') ∧
      st.Becomes (st.service.flushed.buffer before) st' := by
  obtain ⟨st', hr, hb⟩ := flush_compliant h
  refine ⟨{ st' with service := st'.service.buffer before }, ?_, ?_, hb.context_eq, hb.heights_eq⟩
  · rw [closeScope, Action.run_bind_returned hr]
    rfl
  · rw [hb.service_eq]

end Station
end Flotation
