import Flotation.Proofs.Log.Compliance
import Flotation.Proofs.Log.Frames

/-! Diaries: what a station is known to have made of the entries logged so far. What holds of a diary whenever
an entry is logged holds of everything that does no more than log. -/
namespace Flotation.Station
open Flotation.Action

/-- What a station has made of the entries logged at it, those below the threshold included. Nothing keeps
an entry from being logged, and whatever else goes on makes no difference. -/
structure Diary (P : List Entry → Station → Prop) : Prop where
  logs : ∀ {entries st}, P entries st → ∀ entry,
    ∃ st', (logEntry entry).run st = (.returned (), st') ∧ P (entries ++ [entry]) st'
  opens : ∀ {entries st}, P entries st → P entries { st with service := st.service.buffer true }
  closes : ∀ {entries st}, P entries st → ∀ before,
    ∃ st', (closeScope before).run st = (.returned (), st') ∧ P entries st'
  under : ∀ {entries st}, P entries st → ∀ context, P entries { st with context }
  noted : ∀ {entries st}, P entries st → ∀ tag height,
    P entries { st with outlets := st.outlets.noteHeight tag height }

/-- The diary was kept. The context and the buffering are as before. -/
structure Keeping (P : List Entry → Station → Prop) (entries : List Entry) (before after : Station) : Prop where
  diary : P entries after
  context_eq : after.context = before.context
  buffering_eq : after.service.buffering = before.service.buffering

namespace Keeping
variable {P : List Entry → Station → Prop} {entries entries' : List Entry} {st st' st'' : Station}

theorem refl (h : P entries st) : Keeping P entries st st := ⟨h, rfl, rfl⟩

theorem trans (h : Keeping P entries st st') (k : Keeping P entries' st' st'') :
    Keeping P entries' st st'' :=
  ⟨k.diary, k.context_eq.trans h.context_eq, k.buffering_eq.trans h.buffering_eq⟩

theorem of_standing (h : P entries st') (hs : standing st' = standing st) : Keeping P entries st st' :=
  ⟨h, congrArg (fun view => view.1) hs, congrArg (fun view => view.2.2.1) hs⟩

end Keeping

namespace Diary
variable {P : List Entry → Station → Prop} {entries : List Entry} {st : Station}

theorem logEntry (hP : Diary P) (h : P entries st) (entry : Entry) :
    ∃ st', (Station.logEntry entry).run st = (.returned (), st') ∧ Keeping P (entries ++ [entry]) st st' := by
  obtain ⟨st', hr, hp⟩ := hP.logs h entry
  have hk := (keeps_logEntry entry st).2
  rw [hr] at hk
  exact ⟨st', hr, .of_standing hp hk⟩

theorem log (hP : Diary P) (h : P entries st) (level : Level) (time : Float) (message : String) :
    ∃ st', (Station.log level time message).run st = (.returned (), st') ∧
      Keeping P (entries ++ [⟨level, time, message, st.context⟩]) st st' :=
  hP.logEntry h ⟨level, time, message, st.context⟩

/-- Where an entry would be dropped it need not be logged. -/
theorem dropped (hP : Diary P) (h : P entries st) {entry : Entry}
    (ha : st.service.accepts entry.level = false) : P (entries ++ [entry]) st := by
  obtain ⟨st', hr, hp⟩ := hP.logs h entry
  rcases logEntry_cases entry st with ⟨-, hd⟩ | ⟨hn, -⟩
  · rw [hd] at hr
    cases hr
    exact hp
  · rw [ha] at hn
    cases hn

theorem reject {β : Type} (hP : Diary P) (h : P entries st) (fault : Fault) (time : Float)
    {component : String} (hc : component.isEmpty = false) :
    ∃ st', (Station.reject fault time component : Action Station β).run st =
        (.raised (.fault fault), st') ∧
      Keeping P (entries ++ [⟨fault.severity.level, time, fault.message, ⟨st.context.entity, component⟩⟩])
        st st' := by
  obtain ⟨st', hr, hk⟩ := hP.logEntry h
    ⟨fault.severity.level, time, fault.message, ⟨st.context.entity, component⟩⟩
  have he : (report fault time component).run st = (.returned (), st') := by
    rw [report, run_bind_returned (run_read _ st), hc]
    exact hr
  exact ⟨st', run_bind_returned he _, hk⟩

/-- A scope that is closed goes back to the given way of buffering. -/
theorem closeScope (hP : Diary P) (h : P entries st) (before : Bool) :
    ∃ st', (Station.closeScope before).run st = (.returned (), st') ∧ P entries st' ∧
      st'.context = st.context ∧ st'.service.buffering = before := by
  obtain ⟨st', hr, hp⟩ := hP.closes h before
  refine ⟨st', hr, hp, ?_⟩
  have hk := (keeps_flush st).2
  rw [Station.closeScope, run_bind] at hr
  rcases hf : flush.run st with ⟨_ | _ | _, t⟩ <;> rw [hf] at hr hk <;> cases hr
  exact ⟨congrArg (fun view => view.1) hk, rfl⟩

end Diary

/-- The ledger as a diary: whatever is grave enough has been entered, the latest entry first. -/
structure Ledgered (threshold : Level) (older entries : List Entry) (st : Station) : Prop where
  compliant : st.service.Compliant
  threshold_eq : st.service.threshold = threshold
  ledger_eq : st.service.ledger = (entries.filter (fun e => threshold ≤ e.level)).reverse ++ older

theorem Ledgered.diary (threshold : Level) (older : List Entry) : Diary (Ledgered threshold older) where
  logs := by
    intro entries st h entry
    obtain ⟨st', hr, hb⟩ := logEntry_compliant h.compliant entry
    refine ⟨st', hr, ?_, ?_, ?_⟩
    · rw [hb.service_eq]
      exact h.compliant.logged entry
    · rw [hb.service_eq, Service.threshold_logged, h.threshold_eq]
    · rw [hb.service_eq, Service.ledger_logged, Service.accepts, h.threshold_eq, h.ledger_eq,
        List.filter_append, List.filter_singleton]
      cases decide (threshold ≤ entry.level) with
      | true => rw [if_pos rfl, cond_true, List.reverse_concat, List.cons_append]
      | false => rw [if_neg Bool.false_ne_true, cond_false, List.append_nil]
  opens h := ⟨h.compliant, h.threshold_eq, h.ledger_eq⟩
  closes := by
    intro entries st h before
    obtain ⟨st', hr, hb⟩ := closeScope_compliant h.compliant before
    refine ⟨st', hr, ?_, ?_, ?_⟩
    · rw [hb.service_eq]
      exact h.compliant.distribute _
    · rw [hb.service_eq]
      exact h.threshold_eq
    · rw [hb.service_eq]
      exact h.ledger_eq
  under h _ := ⟨h.compliant, h.threshold_eq, h.ledger_eq⟩
  noted h _ _ := ⟨h.compliant, h.threshold_eq, h.ledger_eq⟩

end Flotation.Station
