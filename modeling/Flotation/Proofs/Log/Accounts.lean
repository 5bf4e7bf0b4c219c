import Flotation.Proofs.Log.Compliance

/-! The accounts of a service whose sinks never refuse: what a sink has been given, followed by what is
still held for it, grows by just the entries that are accepted. -/
namespace Flotation.Service

/-- The entry as it counts for the service: nothing if its level is below the threshold. -/
def accepted (s : Service) (entry : Entry) : List Entry := if s.accepts entry.level then [entry] else []

theorem accepted_of_threshold_eq {s t : Service} (h : s.threshold = t.threshold) (entry : Entry) :
    s.accepted entry = t.accepted entry := by
  rw [accepted, accepted, accepts, accepts, h]

/-- From one moment to a later one, every sink has kept its place, the given entries were accepted, and
each sink got or is still to get the ones it admits, in the order in which they were logged. -/
structure Accounts (entries : List Entry) (before after : Service) : Prop where
  slots : List.Forall₂ (fun a b => Slot.Continues a b ∧
    b.entries ++ b.admitted after.pending = a.entries ++ a.admitted (before.pending ++ entries))
    before.slots after.slots
  ledger : after.ledger = entries.reverse ++ before.ledger

namespace Accounts
variable {s t u : Service}

theorem of_same (hs : t.slots = s.slots) (hh : t.held = s.held) (hl : t.ledger = s.ledger) :
    Accounts [] s t := by
  constructor
  · rw [hs, List.forall₂_same]
    intro slot _
    exact ⟨.refl slot, by simp only [pending, hh, List.append_nil]⟩
  · exact hl

theorem refl (s : Service) : Accounts [] s s := .of_same rfl rfl rfl

theorem trans {first second : List Entry} (h : Accounts first s t) (k : Accounts second t u) :
    Accounts (first ++ second) s u := by
  refine ⟨Slot.forall₂_comp ?_ h.slots k.slots, ?_⟩
  · intro a b c hab hbc
    refine ⟨hab.1.trans hbc.1, ?_⟩
    calc c.entries ++ c.admitted u.pending
        = (b.entries ++ b.admitted t.pending) ++ b.admitted second := by rw [hbc.2]; simp
      _ = (a.entries ++ a.admitted (s.pending ++ first)) ++ a.admitted second := by
          rw [hab.2, hab.1.admitted_eq]
      _ = a.entries ++ a.admitted (s.pending ++ (first ++ second)) := by simp
  · rw [k.ledger, h.ledger, List.reverse_append, List.append_assoc]

/-- Moments at which nothing is accepted do not count. -/
theorem trans_nil {entries : List Entry} (h : Accounts entries s t) (k : Accounts [] t u) :
    Accounts entries s u := by
  have hn := h.trans k
  rwa [List.append_nil] at hn

theorem compliant {entries : List Entry} (h : Accounts entries s t) (hc : s.Compliant) :
    t.Compliant := by
  exact Slot.compliant_of_continues (h.slots.imp fun _ _ hab => hab.1) hc

/-- Where nothing is held, equal accounts from a common start mean equal entries. -/
theorem sinks_agree {given : List Entry} (h : Accounts given s t) (k : Accounts given s u)
    (ht : t.held = []) (hu : u.held = []) :
    List.Forall₂ (fun b c => b.sink = c.sink ∧ b.threshold = c.threshold ∧ b.entries = c.entries)
      t.slots u.slots := by
  refine Slot.forall₂_comp ?_ h.slots.flip k.slots
  intro b a c hab hac
  obtain ⟨hb, hbe⟩ := hab
  obtain ⟨hc, hce⟩ := hac
  refine ⟨hb.1.trans hc.1.symm, hb.2.1.trans hc.2.1.symm, ?_⟩
  rw [pending_eq_nil.mpr ht, Slot.admitted_nil, List.append_nil] at hbe
  rw [pending_eq_nil.mpr hu, Slot.admitted_nil, List.append_nil] at hce
  rw [hbe, hce]

end Accounts

theorem accounts_distribute (batch : List Entry) (s : Service) :
    List.Forall₂ (fun a b => Slot.Continues a b ∧ b.entries = a.entries ++ a.admitted batch)
      s.slots (s.distribute batch).slots := by
  rw [distribute, List.forall₂_map_right_iff, List.forall₂_same]
  intro slot _
  exact ⟨slot.continues_served batch, slot.entries_served batch⟩

theorem accounts_logged {s : Service} (h : s.Prompt) (entry : Entry) :
    Accounts (s.accepted entry) s (s.logged entry) := by
  unfold accepted logged
  split
  · split
    · refine ⟨?_, rfl⟩
      exact List.forall₂_same.mpr fun slot _ => ⟨.refl slot, by simp [pending, enter, hold]⟩
    · rename_i hb
      have hp : s.pending = [] := pending_eq_nil.mpr (h (by simpa using hb))
      refine ⟨(accounts_distribute [entry] s).imp ?_, rfl⟩
      intro a b hab
      refine ⟨hab.1, ?_⟩
      change b.entries ++ b.admitted s.pending = _
      rw [hab.2, hp, Slot.admitted_nil, List.append_nil, List.nil_append]
  · exact .refl s

theorem accounts_flushed (s : Service) : Accounts [] s s.flushed := by
  refine ⟨(accounts_distribute s.pending s).imp ?_, rfl⟩
  intro a b hab
  refine ⟨hab.1, ?_⟩
  rw [hab.2, List.append_nil]
  exact List.append_nil _

end Flotation.Service
