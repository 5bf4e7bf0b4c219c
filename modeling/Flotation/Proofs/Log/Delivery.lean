import Flotation.Log.Station
import Flotation.Proofs.Conduct
import Mathlib.Data.List.Forall2

/-! What a delivery does to the sinks of a service, one after the other, and what logging and flushing
come to when no sink ever refuses a batch. -/
namespace Flotation

namespace Slot

/-- The sink never refuses a batch. -/
def Compliant (s : Slot) : Prop := ∀ received, s.sink.refusal received = none

/-- The slot after a batch has come to its turn. -/
def served (batch : List Entry) (s : Slot) : Slot :=
  if (s.admitted batch).isEmpty then s else s.handed (s.admitted batch)

/-- What the sink has against a batch, if anything. -/
def objection (batch : List Entry) (s : Slot) : Option String :=
  if (s.admitted batch).isEmpty then none else (s.served batch).complaint

/-- The outlets after the sink has accepted a batch. -/
def written (batch : List Entry) (s : Slot) (outlets : Outlets) : Outlets :=
  if (s.admitted batch).isEmpty then outlets else outlets.receive (s.admitted batch) s.sink.target

/-- One of the sinks refuses a batch that is offered to them all. -/
def someRefuse (batch : List Entry) (slots : List Slot) : Bool :=
  slots.any fun s => (s.objection batch).isSome

/-- The same sink in the same place, later: it may have been handed more batches, none of them empty. -/
def Continues (before after : Slot) : Prop :=
  after.sink = before.sink ∧ after.threshold = before.threshold ∧
    ∃ batches, after.received = batches ++ before.received ∧ [] ∉ batches

@[simp] theorem admitted_nil (s : Slot) : s.admitted [] = [] := rfl

@[simp] theorem admitted_append (s : Slot) (first second : List Entry) :
    s.admitted (first ++ second) = s.admitted first ++ s.admitted second := List.filter_append _ _

@[simp] theorem served_nil (s : Slot) : s.served [] = s := rfl

@[simp] theorem entries_served (batch : List Entry) (s : Slot) :
    (s.served batch).entries = s.entries ++ s.admitted batch := by
  unfold served
  split
  · rename_i he
    rw [List.isEmpty_iff.mp he, List.append_nil]
  · exact entries_handed s _

namespace Continues
variable {a b c : Slot}

theorem refl (s : Slot) : Continues s s := ⟨rfl, rfl, [], rfl, List.not_mem_nil⟩

theorem trans (h : Continues a b) (k : Continues b c) : Continues a c := by
  obtain ⟨hs, ht, first, hr, hf⟩ := h
  obtain ⟨ks, kt, second, kr, kf⟩ := k
  refine ⟨ks.trans hs, kt.trans ht, second ++ first, ?_, ?_⟩
  · rw [kr, hr, List.append_assoc]
  · intro hm
    exact (List.mem_append.mp hm).elim kf hf

theorem admitted_eq (h : Continues a b) : b.admitted = a.admitted := by
  funext batch
  simp only [admitted, h.2.1]

theorem compliant (h : Continues a b) (ha : a.Compliant) : b.Compliant := by
  intro received
  rw [h.1]
  exact ha received

theorem written_eq (h : Continues a b) (batch : List Entry) : b.written batch = a.written batch := by
  funext outlets
  rw [written, written, h.admitted_eq, h.1]

end Continues

theorem continues_served (batch : List Entry) (s : Slot) : Continues s (s.served batch) := by
  unfold served
  split
  · exact .refl s
  · rename_i he
    refine ⟨rfl, rfl, [s.admitted batch], rfl, ?_⟩
    intro hm
    rw [← List.mem_singleton.mp hm] at he
    exact he rfl

theorem forall₂_continues_refl (slots : List Slot) : List.Forall₂ Continues slots slots :=
  List.forall₂_same.mpr fun s _ => .refl s

/-- Places stay places, so what holds of each place holds of them all. -/
theorem forall₂_comp {P Q R : Slot → Slot → Prop} (h : ∀ a b c, P a b → Q b c → R a c)
    {as bs cs : List Slot} (hp : List.Forall₂ P as bs) (hq : List.Forall₂ Q bs cs) :
    List.Forall₂ R as cs := by
  induction hp generalizing cs with
  | nil =>
    cases hq
    exact .nil
  | cons hab _ ih =>
    obtain ⟨c, cs, hbc, hr, rfl⟩ := List.forall₂_cons_left_iff.mp hq
    exact .cons (h _ _ c hab hbc) (ih hr)

theorem forall₂_continues_trans {as bs cs : List Slot} (h : List.Forall₂ Continues as bs)
    (k : List.Forall₂ Continues bs cs) : List.Forall₂ Continues as cs :=
  forall₂_comp (fun _ _ _ hab hbc => hab.trans hbc) h k

/-- Refusals are a matter of the sinks alone, and those stay. -/
theorem compliant_of_continues {before after : List Slot} (h : List.Forall₂ Continues before after)
    (hc : ∀ slot ∈ before, slot.Compliant) : ∀ slot ∈ after, slot.Compliant := by
  induction h with
  | nil => exact hc
  | cons hab _ ih =>
    obtain ⟨ha, hr⟩ := List.forall_mem_cons.mp hc
    exact List.forall_mem_cons.mpr ⟨hab.compliant ha, ih hr⟩

/-- What is written to the outlets is a matter of the sinks alone. -/
theorem foldl_written_eq {before after : List Slot} (h : List.Forall₂ Continues before after)
    (batch : List Entry) (outlets : Outlets) :
    after.foldl (fun o slot => slot.written batch o) outlets =
      before.foldl (fun o slot => slot.written batch o) outlets := by
  induction h generalizing outlets with
  | nil => rfl
  | cons hab _ ih => rw [List.foldl_cons, List.foldl_cons, hab.written_eq, ih]

theorem Compliant.objection_eq_none {s : Slot} (h : s.Compliant) (batch : List Entry) :
    s.objection batch = none := by
  unfold objection
  split
  · rfl
  · exact (continues_served batch s).compliant h _

theorem someRefuse_cons (batch : List Entry) (s : Slot) (slots : List Slot) :
    someRefuse batch (s :: slots) = ((s.objection batch).isSome || someRefuse batch slots) :=
  List.any_cons

theorem someRefuse_append (batch : List Entry) (first second : List Slot) :
    someRefuse batch (first ++ second) = (someRefuse batch first || someRefuse batch second) :=
  List.any_append

theorem someRefuse_eq_false {slots : List Slot} {batch : List Entry} :
    someRefuse batch slots = false ↔ ∀ slot ∈ slots, slot.objection batch = none := by
  simp [someRefuse]

theorem someRefuse_compliant {slots : List Slot} (h : ∀ slot ∈ slots, slot.Compliant)
    (batch : List Entry) : someRefuse batch slots = false :=
  someRefuse_eq_false.mpr fun slot hm => (h slot hm).objection_eq_none batch

/-- A sink that never refuses leaves it to those before and behind it. -/
theorem someRefuse_around {slots : List Slot} {place : Nat} {slot : Slot} (hs : slots[place]? = some slot)
    (hc : slot.Compliant) (batch : List Entry) :
    someRefuse batch slots =
      (someRefuse batch (slots.take place) || someRefuse batch (slots.drop (place + 1))) := by
  induction slots generalizing place with
  | nil => cases hs
  | cons first rest ih =>
    rw [someRefuse_cons]
    cases place with
    | zero =>
      cases hs
      rw [hc.objection_eq_none]
      rfl
    | succ place =>
      rw [List.take_succ_cons, List.drop_succ_cons, someRefuse_cons, ih hs, Bool.or_assoc]

end Slot

/-- The heights noted in the journal, with their tags, the latest first. -/
def Outlets.heights (o : Outlets) : List (String × Float) :=
  o.journal.filterMap fun
    | .height tag height => some (tag, height)
    | _ => none

@[simp] theorem Outlets.heights_receive (o : Outlets) (batch : List Entry) (target : Target) :
    (o.receive batch target).heights = o.heights := by
  cases target with
  | console id =>
    simp only [receive, print]
    cases o.console? id with
    | none => rfl
    | some terminal => dsimp only; split <;> rfl
  | file path => rfl
  | nowhere => rfl
  | entries tag =>
    simp only [receive, heights, List.filterMap_append, List.filterMap_reverse, List.filterMap_map]
    rw [List.filterMap_eq_nil_iff.mpr (by simp)]
    rfl
  | batches tag => rfl

@[simp] theorem Outlets.heights_noteHeight (o : Outlets) (tag : Option String) (height : Float) :
    (o.noteHeight tag height).heights = (tag.map (·, height)).toList ++ o.heights := by
  cases tag <;> rfl

@[simp] theorem Slot.heights_written (batch : List Entry) (s : Slot) (o : Outlets) :
    (s.written batch o).heights = o.heights := by
  unfold written
  split
  · rfl
  · exact o.heights_receive _ _

theorem deliver_cons (batch : List Entry) (slot : Slot) (rest : List Slot) (outlets : Outlets) :
    deliver batch (slot :: rest) outlets =
      match slot.objection batch with
      | some reason => ⟨some reason, slot.served batch :: rest, outlets⟩
      | none => (deliver batch rest (slot.written batch outlets)).behind (slot.served batch) := by
  simp only [deliver, Slot.objection, Slot.served, Slot.written]
  split
  · rfl
  · rfl

/-- Sinks keep their places in a delivery, whichever of them refuse. -/
theorem deliver_continues (batch : List Entry) (slots : List Slot) (outlets : Outlets) :
    List.Forall₂ Slot.Continues slots (deliver batch slots outlets).slots := by
  induction slots generalizing outlets with
  | nil => exact .nil
  | cons slot rest ih =>
    rw [deliver_cons]
    split
    · exact .cons (slot.continues_served batch) (Slot.forall₂_continues_refl rest)
    · exact .cons (slot.continues_served batch) (ih _)

@[simp] theorem heights_deliver (batch : List Entry) (slots : List Slot) (outlets : Outlets) :
    (deliver batch slots outlets).outlets.heights = outlets.heights := by
  induction slots generalizing outlets with
  | nil => rfl
  | cons slot rest ih =>
    rw [deliver_cons]
    split
    · rfl
    · exact (ih _).trans (slot.heights_written batch outlets)

/-- Without a refusal every sink is served. -/
theorem deliver_compliant {slots : List Slot} (h : ∀ slot ∈ slots, slot.Compliant)
    (batch : List Entry) (outlets : Outlets) :
    (deliver batch slots outlets).complaint = none ∧
      (deliver batch slots outlets).slots = slots.map (·.served batch) := by
  induction slots generalizing outlets with
  | nil => exact ⟨rfl, rfl⟩
  | cons slot rest ih =>
    obtain ⟨hs, hr⟩ := List.forall_mem_cons.mp h
    obtain ⟨hc, hl⟩ := ih hr (slot.written batch outlets)
    rw [deliver_cons, hs.objection_eq_none]
    exact ⟨hc, congrArg (slot.served batch :: ·) hl⟩

/-- A delivery is spoilt if one of the sinks refuses the batch. -/
theorem deliver_complaint (batch : List Entry) (slots : List Slot) (outlets : Outlets) :
    (deliver batch slots outlets).complaint.isSome = Slot.someRefuse batch slots := by
  induction slots generalizing outlets with
  | nil => rfl
  | cons slot rest ih =>
    rw [deliver_cons, Slot.someRefuse_cons]
    cases slot.objection batch with
    | none => exact ih _
    | some reason => rfl

/-- A delivery of which no sink complains has served them all, each of which wrote in its turn. -/
theorem deliver_accepted {batch : List Entry} {slots : List Slot} (h : Slot.someRefuse batch slots = false)
    (outlets : Outlets) :
    deliver batch slots outlets = ⟨none, slots.map (·.served batch),
      slots.foldl (fun o slot => slot.written batch o) outlets⟩ := by
  induction slots generalizing outlets with
  | nil => rfl
  | cons slot rest ih =>
    rw [Slot.someRefuse_cons] at h
    obtain ⟨hs, hr⟩ := Bool.or_eq_false_iff.mp h
    have hn : slot.objection batch = none := by simpa using hs
    rw [deliver_cons, hn, ih hr]
    rfl

/-- A sink that never refuses is served unless a sink before it refuses. -/
theorem deliver_at {slots : List Slot} {place : Nat} {slot : Slot} (hs : slots[place]? = some slot)
    (hc : slot.Compliant) (batch : List Entry) (outlets : Outlets) :
    (deliver batch slots outlets).slots[place]? =
      some (if Slot.someRefuse batch (slots.take place) then slot else slot.served batch) := by
  induction slots generalizing place outlets with
  | nil => cases hs
  | cons first rest ih =>
    rw [deliver_cons]
    cases place with
    | zero =>
      cases hs
      rw [hc.objection_eq_none]
      rfl
    | succ place =>
      rw [List.take_succ_cons, Slot.someRefuse_cons]
      cases first.objection batch with
      | none => exact ih hs _
      | some reason => exact hs

namespace Station
open Flotation.Action

theorem dispatch_run (batch : List Entry) (st : Station) :
    (dispatch batch).run st =
      (match (deliver batch st.service.slots st.outlets).complaint with
        | some reason => .raised (.sink reason)
        | none => .returned (),
      st.delivered (deliver batch st.service.slots st.outlets)) := by
  simp only [dispatch]
  cases (deliver batch st.service.slots st.outlets).complaint with
  | none => rfl
  | some reason => rfl

/-- All that logging an entry can come to: it is dropped, held or delivered at once. -/
theorem logEntry_cases (entry : Entry) (st : Station) :
    (st.service.accepts entry.level = false ∧ (logEntry entry).run st = (.returned (), st)) ∨
      st.service.accepts entry.level = true ∧
        (st.service.buffering = true ∧ (logEntry entry).run st =
            (.returned (), { st with service := (st.service.enter entry).hold entry }) ∨
          st.service.buffering = false ∧ (logEntry entry).run st =
            (dispatch [entry]).run { st with service := st.service.enter entry }) := by
  rw [logEntry, run_bind_returned (run_read _ st)]
  cases st.service.accepts entry.level with
  | false => exact .inl ⟨rfl, rfl⟩
  | true =>
    rw [if_pos rfl, run_bind_returned (run_onService _ st)]
    cases st.service.buffering with
    | true => exact .inr ⟨rfl, .inl ⟨rfl, rfl⟩⟩
    | false => exact .inr ⟨rfl, .inr ⟨rfl, rfl⟩⟩

/-- All that a flush can come to: there is nothing to deliver, or everything is delivered, or a sink refuses
and everything is kept. -/
theorem flush_cases (st : Station) :
    (st.service.held = [] ∧ flush.run st = (.returned (), st)) ∨
      ∃ d, d = deliver st.service.pending st.service.slots st.outlets ∧
        (d.complaint = none ∧ flush.run st =
            (.returned (), { st.delivered d with service := (st.delivered d).service.dropHeld }) ∨
          ∃ reason, d.complaint = some reason ∧ flush.run st = (.raised (.sink reason), st.delivered d)) := by
  rw [flush, run_bind_returned (run_read _ st)]
  split
  · refine .inr ⟨_, rfl, ?_⟩
    rw [run_bind, dispatch_run]
    cases (deliver st.service.pending st.service.slots st.outlets).complaint with
    | none => exact .inl ⟨rfl, rfl⟩
    | some reason => exact .inr ⟨reason, rfl, rfl⟩
  · rename_i he
    exact .inl ⟨by simpa using he, rfl⟩

theorem flush_idle {st : Station} (h : st.service.held = []) : flush.run st = (.returned (), st) := by
  rw [flush, run_bind_returned (run_read _ st), h]
  rfl

end Station
end Flotation
