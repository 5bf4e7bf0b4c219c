import Flotation.Proofs.Log.Acts

/-! Where the entries come from that a service holds and has handed to its sinks. All of them were logged, and
none is altered on its way. -/
namespace Flotation.Service

/-- The service holds the entry, or has handed it to one of its sinks. -/
def Knows (s : Service) (entry : Entry) : Prop :=
  entry ∈ s.held ∨ ∃ slot ∈ s.slots, entry ∈ slot.entries

variable {s : Service} {entry : Entry}

theorem knows_offer {batch : List Entry} (h : (s.offer batch).Knows entry) : s.Knows entry ∨ entry ∈ batch := by
  rcases h with h | ⟨slot, hm, he⟩
  · exact .inl (.inl h)
  · obtain ⟨before, hb, rfl | rfl⟩ := Slot.mem_offered hm
    · exact .inl (.inr ⟨slot, hb, he⟩)
    · rw [Slot.entries_served, List.mem_append] at he
      rcases he with he | he
      · exact .inl (.inr ⟨before, hb, he⟩)
      · exact .inr (List.mem_filter.mp he).1

/-- What is held is known already, so that nothing is news in a flush. -/
theorem knows_offer_pending (h : (s.offer s.pending).Knows entry) : s.Knows entry :=
  (knows_offer h).elim id fun hp => .inl (List.mem_reverse.mp hp)

theorem knows_undergo {act : Act} (h : (s.undergo act).Knows entry) : s.Knows entry ∨ act = .log entry := by
  cases act with
  | log logged =>
    rw [undergo] at h
    split_ifs at h
    · rcases h with h | h
      · rcases List.mem_cons.mp h with rfl | h
        · exact .inr rfl
        · exact .inl (.inl h)
      · exact .inl (.inr h)
    · rcases knows_offer h with h | h
      · exact .inl h
      · obtain rfl := List.mem_singleton.mp h
        exact .inr rfl
    · exact .inl h
  | flush =>
    rw [undergo] at h
    split_ifs at h
    · exact .inl (knows_offer_pending h)
    · rcases h with h | h
      · cases h
      · exact .inl (knows_offer_pending (.inr h))
  | attachSink sink threshold =>
    rcases h with h | ⟨slot, hm, he⟩
    · exact .inl (.inl h)
    · rcases List.mem_append.mp hm with hm | hm
      · exact .inl (.inr ⟨slot, hm, he⟩)
      · obtain rfl := List.mem_singleton.mp hm
        cases he
  | detachSinks =>
    rcases h with h | ⟨slot, hm, -⟩
    · exact .inl (.inl h)
    · cases hm
  | dropHeld =>
    rcases h with h | h
    · cases h
    · exact .inl (.inr h)
  | buffer | setThreshold | newLedger => exact .inl h

theorem knows_foldl {acts : List Act} (h : (acts.foldl undergo s).Knows entry) :
    s.Knows entry ∨ .log entry ∈ acts := by
  induction acts generalizing s with
  | nil => exact .inl h
  | cons act rest ih =>
    rcases ih h with h | h
    · rcases knows_undergo h with h | rfl
      · exact .inl h
      · exact .inr List.mem_cons_self
    · exact .inr (List.mem_cons_of_mem _ h)

end Flotation.Service
