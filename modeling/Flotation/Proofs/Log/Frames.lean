import Flotation.Proofs.Log.Delivery

/-! What logging leaves alone, whatever the sinks make of the entries. -/
namespace Flotation.Station
open Flotation.Action

/-- The part of a station that no entry changes: the context, the settings of the service, and the heights
that observers were seen to record. -/
def standing (st : Station) : Context × Level × Bool × List (String × Float) :=
  (st.context, st.service.threshold, st.service.buffering, st.outlets.heights)

theorem keeps_onService {f : Service → Service} (ht : ∀ s, (f s).threshold = s.threshold)
    (hb : ∀ s, (f s).buffering = s.buffering) : Keeps standing (onService f) := by
  apply Keeps.update
  intro st
  simp only [standing, ht, hb]

theorem keeps_dispatch (batch : List Entry) : Keeps standing (dispatch batch) := by
  intro st
  have hs : standing (st.delivered (deliver batch st.service.slots st.outlets)) = standing st := by
    simp only [standing, delivered, heights_deliver]
  simp only [dispatch]
  split
  · exact ⟨by simp, hs⟩
  · exact ⟨by simp, hs⟩

theorem keeps_logEntry (entry : Entry) : Keeps standing (logEntry entry) := by
  unfold logEntry
  refine .bind (.read _) fun service => ?_
  split
  · refine .bind (keeps_onService (fun _ => rfl) fun _ => rfl) fun _ => ?_
    split
    · exact keeps_onService (fun _ => rfl) fun _ => rfl
    · exact keeps_dispatch _
  · exact .pure ()

theorem keeps_log (level : Level) (time : Float) (message : String) :
    Keeps standing (log level time message) :=
  .bind (.read _) fun _ => keeps_logEntry _

theorem keeps_reject {α : Type} (fault : Fault) (time : Float) (component : String) :
    Keeps standing (reject fault time component : Action Station α) :=
  .bind (.bind (.read _) fun _ => keeps_logEntry _) fun _ => .raise _

theorem keeps_flush : Keeps standing flush := by
  unfold flush
  refine .bind (.read _) fun service => ?_
  split
  · exact .bind (keeps_dispatch _) fun _ => keeps_onService (fun _ => rfl) fun _ => rfl
  · exact .pure ()

/-- A flush that returns has left nothing behind. -/
theorem held_of_flush_returned {st st' : Station} (h : flush.run st = (.returned (), st')) :
    st'.service.held = [] := by
  rcases flush_cases st with ⟨hh, hr⟩ | ⟨d, _, ⟨_, hr⟩ | ⟨reason, _, hr⟩⟩
  · rw [hr] at h
    cases h
    exact hh
  · rw [hr] at h
    cases h
    rfl
  · rw [hr] at h
    cases h

end Flotation.Station
