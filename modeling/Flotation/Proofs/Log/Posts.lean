import Flotation.Proofs.Log.Accounts
import Flotation.Proofs.Log.Frames
import Mathlib.Data.List.Count

/-! A sink that never refuses, among sinks that may. One before it that refuses an entry keeps it from this
one, and one behind it that refuses what is flushed has it flushed again. Nothing else happens to it. -/
namespace Flotation
open Flotation.Action

namespace Service
variable {place : Nat}

/-- What the sink at a place misses when an entry is logged: an entry for immediate delivery that a sink
before it refuses. -/
def missed (place : Nat) (entry : Entry) (s : Service) : List Entry :=
  if !s.buffering && Slot.someRefuse [entry] (s.slots.take place) then s.accepted entry else []

/-- What the sink at a place is handed by a flush and will be handed again: the entries held, if none before
it but one behind it refuses them. -/
def repeated (place : Nat) (s : Service) : List Entry :=
  if !Slot.someRefuse s.pending (s.slots.take place) && Slot.someRefuse s.pending (s.slots.drop (place + 1))
  then s.pending else []

theorem missed_sublist (place : Nat) (entry : Entry) (s : Service) :
    (s.missed place entry).Sublist (s.accepted entry) := by
  rw [missed]
  split
  · exact List.Sublist.refl _
  · exact List.nil_sublist _

theorem missed_eq_nil {s : Service} (h : ∀ slot ∈ s.slots.take place, slot.Compliant) (entry : Entry) :
    s.missed place entry = [] := by
  rw [missed, Slot.someRefuse_compliant h, Bool.and_false, if_neg Bool.false_ne_true]

theorem repeated_eq_nil {s : Service} (h : ∀ slot ∈ s.slots.drop (place + 1), slot.Compliant) :
    s.repeated place = [] := by
  rw [repeated, Slot.someRefuse_compliant h, Bool.and_false, if_neg Bool.false_ne_true]

/-- A flush returns only if no sink refuses. -/
theorem repeated_of_flush_returned {st st' : Station} (h : Station.flush.run st = (.returned (), st')) :
    st.service.repeated place = [] := by
  rcases Station.flush_cases st with ⟨hh, _⟩ | ⟨d, rfl, ⟨hn, _⟩ | ⟨reason, _, hr⟩⟩
  · rw [repeated, pending_eq_nil.mpr hh, ite_self]
  · have hs := deliver_complaint st.service.pending st.service.slots st.outlets
    rw [hn, ← List.take_append_drop (place + 1) st.service.slots, Slot.someRefuse_append] at hs
    rw [repeated, (Bool.or_eq_false_iff.mp hs.symm).2, Bool.and_false, if_neg Bool.false_ne_true]
  · rw [hr] at h
    cases h

end Service

/-- A sink that never refuses, in its place at a service. -/
structure Post (place : Nat) where
  service : Service
  slot : Slot
  slot_eq : service.slots[place]? = some slot
  compliant : slot.Compliant

namespace Post
variable {place : Nat}

/-- The post after a change of the service that is none to the sinks. -/
def keep (p : Post place) (service : Service) (h : service.slots = p.service.slots) : Post place :=
  ⟨service, p.slot, by rw [h]; exact p.slot_eq, p.compliant⟩

/-- From one moment to a later one the service has accepted some entries. The sink has got, or is still to
get, the ones it admits, without those it missed and with those that were repeated once more. It misses
nothing if no sink before it ever refuses, and nothing is repeated if no sink behind it does. -/
structure Deals (accepted missed repeated : List Entry) (p q : Post place) : Prop where
  slots : List.Forall₂ Slot.Continues p.service.slots q.service.slots
  slot : p.slot.Continues q.slot
  given : (q.slot.entries ++ p.slot.admitted (q.service.pending ++ missed)).Perm
    (p.slot.entries ++ p.slot.admitted (p.service.pending ++ (accepted ++ repeated)))
  missed_sublist : missed.Sublist accepted
  missed_eq_nil : (∀ s ∈ p.service.slots.take place, s.Compliant) → missed = []
  repeated_eq_nil : (∀ s ∈ p.service.slots.drop (place + 1), s.Compliant) → repeated = []

namespace Deals
variable {accepted missed repeated accepted' missed' repeated' : List Entry} {p q r : Post place}

/-- No delivery: what is held now was held before or has just been accepted. -/
theorem of_held {service : Service} (hs : service.slots = p.service.slots)
    (hh : service.pending = p.service.pending ++ accepted) : Deals accepted [] [] p (p.keep service hs) := by
  refine ⟨?_, .refl _, ?_, List.nil_sublist _, fun _ => rfl, fun _ => rfl⟩
  · rw [keep, hs]
    exact Slot.forall₂_continues_refl _
  · rw [List.append_nil, List.append_nil, keep, hh]

theorem refl (p : Post place) : Deals [] [] [] p p := of_held rfl (List.append_nil _).symm

theorem trans (h : Deals accepted missed repeated p q) (k : Deals accepted' missed' repeated' q r) :
    Deals (accepted ++ accepted') (missed ++ missed') (repeated ++ repeated') p r := by
  classical
  refine ⟨Slot.forall₂_continues_trans h.slots k.slots, h.slot.trans k.slot, ?_,
    h.missed_sublist.append k.missed_sublist, fun hc => ?_, fun hc => ?_⟩
  · apply List.perm_iff_count.mpr
    intro entry
    have hc := List.perm_iff_count.mp h.given entry
    have kc := List.perm_iff_count.mp k.given entry
    rw [h.slot.admitted_eq] at kc
    simp only [Slot.admitted_append, List.count_append] at hc kc ⊢
    omega
  · have kc := Slot.compliant_of_continues (List.forall₂_take place h.slots) hc
    rw [h.missed_eq_nil hc, k.missed_eq_nil kc, List.nil_append]
  · have kc := Slot.compliant_of_continues (List.forall₂_drop (place + 1) h.slots) hc
    rw [h.repeated_eq_nil hc, k.repeated_eq_nil kc, List.nil_append]

/-- A delivery reaches the sink unless a sink before it refuses. -/
private theorem delivered (p : Post place) (batch : List Entry) (outlets : Outlets) {service : Service}
    (h : service.slots = (deliver batch p.service.slots outlets).slots) :
    ∃ q : Post place, q.service = service ∧ List.Forall₂ Slot.Continues p.service.slots q.service.slots ∧
      p.slot.Continues q.slot ∧ q.slot.entries = p.slot.entries ++
        if Slot.someRefuse batch (p.service.slots.take place) then [] else p.slot.admitted batch := by
  have ha := deliver_at p.slot_eq p.compliant batch outlets
  have hc := deliver_continues batch p.service.slots outlets
  rw [← h] at ha hc
  cases hr : Slot.someRefuse batch (p.service.slots.take place) with
  | true =>
    rw [hr, if_pos rfl] at ha
    exact ⟨⟨service, p.slot, ha, p.compliant⟩, rfl, hc, .refl _, (List.append_nil _).symm⟩
  | false =>
    rw [hr, if_neg Bool.false_ne_true] at ha
    have hs := p.slot.continues_served batch
    exact ⟨⟨service, _, ha, hs.compliant p.compliant⟩, rfl, hc, hs, p.slot.entries_served batch⟩

/-- An entry for immediate delivery is given to the sink or missed. -/
private theorem dispatched {st : Station} (hs : st.service.slots = p.service.slots)
    (hh : st.service.pending = p.service.pending) (entry : Entry) :
    ∃ q : Post place, q.service = ((Station.dispatch [entry]).run st).2.service ∧
      List.Forall₂ Slot.Continues p.service.slots q.service.slots ∧ p.slot.Continues q.slot ∧
      (q.slot.entries ++ p.slot.admitted (q.service.pending ++
          if Slot.someRefuse [entry] (p.service.slots.take place) then [entry] else [])).Perm
        (p.slot.entries ++ p.slot.admitted (p.service.pending ++ [entry])) := by
  have hd : ((Station.dispatch [entry]).run st).2.service.slots =
      (deliver [entry] p.service.slots st.outlets).slots := by
    rw [Station.dispatch_run, Station.delivered, hs]
  obtain ⟨q, hq, hc, hp, hg⟩ := delivered p [entry] st.outlets hd
  have hk : q.service.pending = p.service.pending := by
    rw [hq, Station.dispatch_run, ← hh]
    rfl
  refine ⟨q, hq, hc, hp, ?_⟩
  rw [hg, hk]
  split
  · rw [List.append_nil]
  · rw [List.append_nil, Slot.admitted_append, List.append_assoc]
    exact List.perm_append_comm.append_left _

theorem of_logEntry {st : Station} (hp : st.service = p.service) (entry : Entry) :
    ∃ q : Post place, q.service = ((Station.logEntry entry).run st).2.service ∧
      Deals (p.service.accepted entry) (p.service.missed place entry) [] p q := by
  rcases Station.logEntry_cases entry st with ⟨ha, hr⟩ | ⟨ha, ⟨hb, hr⟩ | ⟨hb, hr⟩⟩ <;> rw [hp] at ha
  · rw [hr, Service.missed, Service.accepted, ha, if_neg Bool.false_ne_true, ite_self]
    exact ⟨p, hp.symm, .refl p⟩
  · rw [hp] at hb hr
    have hs : ((p.service.enter entry).hold entry).slots = p.service.slots := rfl
    have hh := Service.pending_hold (p.service.enter entry) entry
    rw [hr, Service.missed, Service.accepted, ha, hb, if_pos rfl, Bool.not_true, Bool.false_and,
      if_neg Bool.false_ne_true]
    exact ⟨p.keep _ hs, rfl, .of_held hs hh⟩
  · rw [hp] at hb hr
    let st' : Station := { st with service := p.service.enter entry }
    have hs : st'.service.slots = p.service.slots := rfl
    obtain ⟨q, hq, hc, hslot, hg⟩ := dispatched hs rfl entry
    rw [hr]
    refine ⟨q, hq, hc, hslot, ?_, Service.missed_sublist place entry _,
      fun hall => Service.missed_eq_nil hall entry, fun _ => rfl⟩
    rw [Service.missed, Service.accepted, ha, hb, if_pos rfl, Bool.not_false, Bool.true_and, List.append_nil]
    exact hg

/-- A flush that fails leaves everything held, also what this sink has got. -/
theorem of_flush {st : Station} (hp : st.service = p.service) :
    ∃ q : Post place, q.service = (Station.flush.run st).2.service ∧
      Deals [] [] (p.service.repeated place) p q := by
  have hn := deliver_complaint p.service.pending p.service.slots st.outlets
  rw [Slot.someRefuse_around p.slot_eq p.compliant] at hn
  rcases Station.flush_cases st with ⟨hh, hr⟩ | ⟨d, hd, ⟨hc, hr⟩ | ⟨reason, hc, hr⟩⟩
  · rw [hp] at hh
    rw [hr, Service.repeated, Service.pending_eq_nil.mpr hh, ite_self]
    exact ⟨p, hp.symm, .refl p⟩
  · rw [hp] at hd
    rw [← hd, hc] at hn
    obtain ⟨hf, hb⟩ := Bool.or_eq_false_iff.mp hn.symm
    have hds : (st.delivered d).service.dropHeld.slots =
        (deliver p.service.pending p.service.slots st.outlets).slots := congrArg Delivery.slots hd
    obtain ⟨q, hq, hcont, hs, hg⟩ := delivered p p.service.pending st.outlets hds
    have hk : q.service.pending = [] := by rw [hq, Service.pending_dropHeld]
    refine ⟨q, ?_, hcont, hs, ?_, List.nil_sublist _, fun _ => rfl, Service.repeated_eq_nil⟩
    · rw [hq, hr]
    · rw [hg, hk, Service.repeated, hf, hb]
      simp
  · rw [hp] at hd
    rw [← hd, hc] at hn
    have hds : (st.delivered d).service.slots =
        (deliver p.service.pending p.service.slots st.outlets).slots := congrArg Delivery.slots hd
    obtain ⟨q, hq, hcont, hs, hg⟩ := delivered p p.service.pending st.outlets hds
    have hk : q.service.pending = p.service.pending := by
      rw [hq, ← hp]
      rfl
    refine ⟨q, ?_, hcont, hs, ?_, List.nil_sublist _, fun _ => rfl, Service.repeated_eq_nil⟩
    · rw [hq, hr]
    · rw [hg, hk, Service.repeated]
      cases hf : Slot.someRefuse p.service.pending (p.service.slots.take place) with
      | true => simp
      | false =>
        rw [hf, Bool.false_or] at hn
        rw [← hn]
        simp

end Deals
end Post
end Flotation
