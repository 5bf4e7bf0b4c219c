import Flotation.Proofs.Log.Compliance

/-! Log services as machines. A service is driven by acts, and what it becomes is told from the acts and its own
sinks, whatever is written to the outlets in the meantime. -/
namespace Flotation

/-- What can be done to a log service. -/
inductive Act where
  | log (entry : Entry)
  | buffer (buffering : Bool)
  | setThreshold (threshold : Level)
  | attachSink (sink : Sink) (threshold : Level)
  | detachSinks
  | flush
  | dropHeld
  | newLedger

/-- The act puts up a sink for the console of the simulator with the serial number. -/
def Act.Serves (serial : Nat) : Act → Prop
  | .attachSink sink _ => sink.target = .console (.simulator serial)
  | _ => False

/-- The sinks after a batch was handed to one after the other, up to the first that refuses it. -/
def Slot.offered (batch : List Entry) : List Slot → List Slot
  | [] => []
  | slot :: rest =>
    slot.served batch ::
      match slot.objection batch with
      | none => offered batch rest
      | some _ => rest

theorem Slot.slots_deliver (batch : List Entry) (slots : List Slot) (outlets : Outlets) :
    (deliver batch slots outlets).slots = offered batch slots := by
  induction slots generalizing outlets with
  | nil => rfl
  | cons slot rest ih =>
    rw [deliver_cons, offered]
    cases slot.objection batch with
    | none => exact congrArg (slot.served batch :: ·) (ih _)
    | some reason => rfl

@[simp] theorem Slot.offered_nil (slots : List Slot) : offered [] slots = slots := by
  induction slots with
  | nil => rfl
  | cons slot rest ih => exact congrArg (slot :: ·) ih

theorem Slot.offered_compliant {slots : List Slot} (h : ∀ slot ∈ slots, slot.Compliant) (batch : List Entry) :
    offered batch slots = slots.map (·.served batch) := by
  induction slots with
  | nil => rfl
  | cons slot rest ih =>
    obtain ⟨hs, hr⟩ := List.forall_mem_cons.mp h
    rw [offered, hs.objection_eq_none, ih hr, List.map_cons]

/-- A sink that was offered a batch is one from before, served or not. -/
theorem Slot.mem_offered {batch : List Entry} {slots : List Slot} {slot : Slot}
    (h : slot ∈ offered batch slots) : ∃ before ∈ slots, slot = before ∨ slot = before.served batch := by
  induction slots with
  | nil => cases h
  | cons first rest ih =>
    rw [offered, List.mem_cons] at h
    rcases h with rfl | h
    · exact ⟨first, List.mem_cons_self, .inr rfl⟩
    · cases ho : first.objection batch with
      | none =>
        rw [ho] at h
        obtain ⟨before, hm, hs⟩ := ih h
        exact ⟨before, List.mem_cons_of_mem _ hm, hs⟩
      | some reason =>
        rw [ho] at h
        exact ⟨slot, List.mem_cons_of_mem _ h, .inl rfl⟩

namespace Service

/-- The service after a batch was offered to its sinks. -/
def offer (batch : List Entry) (s : Service) : Service := { s with slots := Slot.offered batch s.slots }

/-- A sink refuses the entry if it is logged now. -/
def refuses (s : Service) (entry : Entry) : Bool :=
  s.accepts entry.level && (!s.buffering && Slot.someRefuse [entry] s.slots)

/-- A sink refuses what is held if it is delivered now. -/
def clogged (s : Service) : Bool := Slot.someRefuse s.pending s.slots

/-- The service after an act. -/
def undergo (s : Service) : Act → Service
  | .log entry =>
    if s.accepts entry.level then
      if s.buffering then (s.enter entry).hold entry else (s.enter entry).offer [entry]
    else s
  | .buffer buffering => s.buffer buffering
  | .setThreshold threshold => s.setThreshold threshold
  | .attachSink sink threshold => s.attachSink sink threshold
  | .detachSinks => s.detachSinks
  | .flush => if s.clogged then s.offer s.pending else (s.offer s.pending).dropHeld
  | .dropHeld => s.dropHeld
  | .newLedger => s.newLedger

/-- The entries that get logged if some are to be, one after the other: the first that a sink refuses is the
last. -/
def logging (s : Service) : List Entry → List Entry
  | [] => []
  | entry :: rest => entry :: if s.refuses entry then [] else (s.undergo (.log entry)).logging rest

/-- What it comes to if a scope is closed. Buffering goes on if what is held is refused. -/
def scopeClosing (s : Service) (before : Bool) : List Act :=
  .flush :: if s.clogged then [] else [.buffer before]

/-- What it comes to if a simulator is taken down. The sinks stay if what is held is refused. -/
def takedown (s : Service) : List Act := .flush :: if s.clogged then [] else [.detachSinks]

theorem undergo_log_of_compliant {s : Service} (h : s.Compliant) (entry : Entry) :
    s.undergo (.log entry) = s.logged entry := by
  rw [undergo, logged, offer, distribute, ← Slot.offered_compliant]
  exact h

end Service

namespace Station
open Flotation.Action

/-- The station has gone on to another, its service by these acts. Consoles may have been put up on the way, and
the sinks that serve a console were put up with it. -/
structure Undergoes (acts : List Act) (before after : Station) : Prop where
  service_eq : after.service = acts.foldl Service.undergo before.service
  serials_le : before.serials ≤ after.serials
  serves : ∀ act ∈ acts, ∀ serial, act.Serves serial → before.serials ≤ serial ∧ serial < after.serials

namespace Undergoes
variable {acts later : List Act} {st st' st'' : Station}

theorem of_service_eq (h : st'.service = st.service) (hn : st'.serials = st.serials) :
    Undergoes [] st st' := ⟨h, Nat.le_of_eq hn.symm, List.forall_mem_nil _⟩

theorem refl (st : Station) : Undergoes [] st st := .of_service_eq rfl rfl

theorem single {act : Act} (h : st'.service = st.service.undergo act) (hn : st'.serials = st.serials)
    (ha : ∀ serial, ¬act.Serves serial) : Undergoes [act] st st' :=
  ⟨h, Nat.le_of_eq hn.symm, List.forall_mem_singleton.mpr fun serial hs => absurd hs (ha serial)⟩

theorem trans (h : Undergoes acts st st') (k : Undergoes later st' st'') :
    Undergoes (acts ++ later) st st'' := by
  refine ⟨?_, Nat.le_trans h.serials_le k.serials_le, List.forall_mem_append.mpr ⟨fun act ha n hs => ?_,
    fun act ha n hs => ?_⟩⟩
  · rw [List.foldl_append, ← h.service_eq, k.service_eq]
  · obtain ⟨hle, hlt⟩ := h.serves act ha n hs
    exact ⟨hle, Nat.lt_of_lt_of_le hlt k.serials_le⟩
  · obtain ⟨hle, hlt⟩ := k.serves act ha n hs
    exact ⟨Nat.le_trans h.serials_le hle, hlt⟩

theorem cons {act : Act} (h : Undergoes [act] st st') (k : Undergoes later st' st'') :
    Undergoes (act :: later) st st'' := h.trans k

end Undergoes

theorem dispatch_offers (batch : List Entry) (st : Station) :
    ((dispatch batch).run st).2.service = st.service.offer batch ∧
      ((dispatch batch).run st).2.serials = st.serials ∧
      (Slot.someRefuse batch st.service.slots = false ∧ ((dispatch batch).run st).1 = .returned () ∨
        Slot.someRefuse batch st.service.slots = true ∧
          ∃ reason, ((dispatch batch).run st).1 = .raised (.sink reason)) := by
  rw [dispatch_run, ← deliver_complaint batch st.service.slots st.outlets]
  refine ⟨congrArg (fun slots => { st.service with slots }) (Slot.slots_deliver _ _ _), rfl, ?_⟩
  cases (deliver batch st.service.slots st.outlets).complaint with
  | none => exact .inl ⟨rfl, rfl⟩
  | some reason => exact .inr ⟨rfl, reason, rfl⟩

/-- Logging an entry is an act of its own, and it raises what a sink refuses. -/
theorem logEntry_undergoes (entry : Entry) (st : Station) :
    ∃ st', Undergoes [.log entry] st st' ∧
      (st.service.refuses entry = false ∧ (logEntry entry).run st = (.returned (), st') ∨
        st.service.refuses entry = true ∧ ∃ reason, (logEntry entry).run st = (.raised (.sink reason), st')) := by
  rw [Service.refuses]
  rcases logEntry_cases entry st with ⟨ha, hr⟩ | ⟨ha, ⟨hb, hr⟩ | ⟨hb, hr⟩⟩
  · rw [ha]
    exact ⟨st, .single (by simp [Service.undergo, ha]) rfl (fun _ => id), .inl ⟨rfl, hr⟩⟩
  · rw [ha, hb]
    refine ⟨_, ?_, .inl ⟨rfl, hr⟩⟩
    exact .single (by simp [Service.undergo, ha, hb]) rfl fun _ => id
  · obtain ⟨hservice, hserials, hout⟩ := dispatch_offers [entry] { st with service := st.service.enter entry }
    rw [ha, hb, hr]
    refine ⟨_, .single (by simp [Service.undergo, ha, hb, hservice]) hserials (fun _ => id), ?_⟩
    rcases hout with ⟨hn, ho⟩ | ⟨hn, reason, ho⟩
    · exact .inl ⟨hn, Prod.ext ho rfl⟩
    · exact .inr ⟨hn, reason, Prod.ext ho rfl⟩

theorem undergoes_logEntry (entry : Entry) (st : Station) :
    Undergoes [.log entry] st ((logEntry entry).run st).2 := by
  obtain ⟨st', hu, ⟨-, hr⟩ | ⟨-, reason, hr⟩⟩ := logEntry_undergoes entry st <;> rw [hr] <;> exact hu

theorem flush_undergoes (st : Station) :
    ∃ st', Undergoes [.flush] st st' ∧
      (st.service.clogged = false ∧ flush.run st = (.returned (), st') ∨
        st.service.clogged = true ∧ ∃ reason, flush.run st = (.raised (.sink reason), st')) := by
  rcases flush_cases st with ⟨hh, hr⟩ | ⟨d, rfl, hr⟩
  · have hp := Service.pending_eq_nil.mpr hh
    have hc : st.service.clogged = false := by
      rw [Service.clogged, hp]
      exact Slot.someRefuse_eq_false.mpr fun _ _ => rfl
    refine ⟨st, .single ?_ rfl (fun _ => id), .inl ⟨hc, hr⟩⟩
    rw [Service.undergo, hc, if_neg Bool.false_ne_true, hp, Service.offer, Slot.offered_nil, Service.dropHeld,
      ← hh]
  · have hc : (deliver st.service.pending st.service.slots st.outlets).complaint.isSome =
        st.service.clogged := deliver_complaint _ _ _
    have ho : (st.delivered (deliver st.service.pending st.service.slots st.outlets)).service =
        st.service.offer st.service.pending :=
      congrArg (fun slots => { st.service with slots }) (Slot.slots_deliver _ _ _)
    rcases hr with ⟨hn, hr⟩ | ⟨reason, hn, hr⟩ <;> rw [hn] at hc
    · refine ⟨_, ?_, .inl ⟨hc.symm, hr⟩⟩
      refine .single ?_ rfl fun _ => id
      rw [Service.undergo, ← hc]
      exact congrArg Service.dropHeld ho
    · refine ⟨_, ?_, .inr ⟨hc.symm, reason, hr⟩⟩
      refine .single ?_ rfl fun _ => id
      rw [Service.undergo, ← hc]
      exact ho

theorem undergoes_flush (st : Station) : Undergoes [.flush] st (flush.run st).2 := by
  obtain ⟨st', hu, ⟨-, hr⟩ | ⟨-, reason, hr⟩⟩ := flush_undergoes st <;> rw [hr] <;> exact hu

theorem closeScope_undergoes (before : Bool) (st : Station) :
    Undergoes (st.service.scopeClosing before) st ((closeScope before).run st).2 := by
  obtain ⟨st', hu, ⟨hc, hr⟩ | ⟨hc, reason, hr⟩⟩ := flush_undergoes st
  · rw [closeScope, run_bind_returned hr, Service.scopeClosing, hc]
    exact hu.cons (.single rfl rfl fun _ => id)
  · rw [closeScope, run_bind_raised hr, Service.scopeClosing, hc]
    exact hu

end Station
end Flotation
