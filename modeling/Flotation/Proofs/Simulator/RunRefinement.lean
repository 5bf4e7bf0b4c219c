import Flotation.Proofs.Log.Accounts
import Flotation.Simulator.Run

/-! A run is the loop of its steps: holding the log until the end changes only how the entries are split
into batches. Two simulators that go through the same ticks are compared, one of them buffered. -/
namespace Flotation
open Flotation.Action
variable {α : Type} [Scalar α]

/-- Two stations that have accepted the same entries since their common start, whatever each of them has
delivered of them. The flags say which of the two is buffering. -/
structure Station.Abreast (start : Service) (b b' : Bool) (st st' : Station) : Prop where
  context_eq : st.context = st'.context
  heights_eq : st.outlets.heights = st'.outlets.heights
  threshold_eq : st.service.threshold = st'.service.threshold
  buffering_eq : st.service.buffering = b ∧ st'.service.buffering = b'
  prompt : st.service.Prompt ∧ st'.service.Prompt
  accounts : ∃ entries, start.Accounts entries st.service ∧ start.Accounts entries st'.service

namespace Station.Abreast
variable {start : Service} {b b' : Bool} {st st' : Station}

theorem compliant (hc : start.Compliant) (h : Abreast start b b' st st') :
    st.service.Compliant ∧ st'.service.Compliant := by
  obtain ⟨entries, hs, hs'⟩ := h.accounts
  exact ⟨hs.compliant hc, hs'.compliant hc⟩

theorem logEntry (hc : start.Compliant) (h : Abreast start b b' st st') (entry : Entry) :
    Tally (Abreast start b b') ((Station.logEntry entry).run st) ((Station.logEntry entry).run st') := by
  obtain ⟨hcs, hcs'⟩ := h.compliant hc
  obtain ⟨u, hr, hu⟩ := logEntry_compliant hcs entry
  obtain ⟨u', hr', hu'⟩ := logEntry_compliant hcs' entry
  obtain ⟨entries, ha, ha'⟩ := h.accounts
  have hacc := Service.accepted_of_threshold_eq h.threshold_eq entry
  rw [hr, hr']
  refine .returned () ⟨?_, ?_, ?_, ?_, ?_, entries ++ st.service.accepted entry, ?_, ?_⟩
  · rw [hu.context_eq, hu'.context_eq, h.context_eq]
  · rw [hu.heights_eq, hu'.heights_eq, h.heights_eq]
  · rw [hu.service_eq, hu'.service_eq, Service.threshold_logged, Service.threshold_logged, h.threshold_eq]
  · rw [hu.service_eq, hu'.service_eq, Service.buffering_logged, Service.buffering_logged]
    exact h.buffering_eq
  · rw [hu.service_eq, hu'.service_eq]
    exact ⟨h.prompt.1.logged entry, h.prompt.2.logged entry⟩
  · rw [hu.service_eq]
    exact ha.trans (Service.accounts_logged h.prompt.1 entry)
  · rw [hu'.service_eq, hacc]
    exact ha'.trans (Service.accounts_logged h.prompt.2 entry)

theorem log (hc : start.Compliant) (h : Abreast start b b' st st') (level : Level) (time : Float)
    (message : String) :
    Tally (Abreast start b b') ((Station.log level time message).run st)
      ((Station.log level time message).run st') := by
  have ht := h.logEntry hc ⟨level, time, message, st.context⟩
  change Tally _ _ ((Station.logEntry ⟨level, time, message, st'.context⟩).run st')
  rwa [← h.context_eq]

theorem reject {β : Type} (hc : start.Compliant) (h : Abreast start b b' st st') (fault : Fault)
    (time : Float) (component : String) :
    Tally (Abreast start b b') ((Station.reject fault time component : Action Station β).run st)
      ((Station.reject fault time component : Action Station β).run st') := by
  have ht := h.logEntry hc ⟨fault.severity.level, time, fault.message,
    ⟨st.context.entity, if component.isEmpty then fault.category else component⟩⟩
  refine .bind (R := Abreast start b b') ?_ fun _ _ _ hr => .raised _ hr
  change Tally _ _ ((Station.logEntry ⟨fault.severity.level, time, fault.message,
    ⟨st'.context.entity, if component.isEmpty then fault.category else component⟩⟩).run st')
  rwa [← h.context_eq]

theorem under (h : Abreast start b b' st st') (context : Context) :
    Abreast start b b' { st with context } { st' with context } :=
  ⟨rfl, h.heights_eq, h.threshold_eq, h.buffering_eq, h.prompt, h.accounts⟩

theorem openScope (h : Abreast start false b' st st') :
    Abreast start true b' { st with service := st.service.buffer true } st' := by
  obtain ⟨entries, ha, ha'⟩ := h.accounts
  refine ⟨h.context_eq, h.heights_eq, h.threshold_eq, ⟨rfl, h.buffering_eq.2⟩, ⟨?_, h.prompt.2⟩,
    entries, ?_, ha'⟩
  · intro hb
    cases hb
  · exact ha.trans_nil (.of_same rfl rfl rfl)

theorem closeScope (hc : start.Compliant) (h : Abreast start true b' st st') :
    ∃ u, (Station.closeScope false).run st = (.returned (), u) ∧ Abreast start false b' u st' := by
  obtain ⟨u, hr, hu⟩ := closeScope_compliant (h.compliant hc).1 false
  obtain ⟨entries, ha, ha'⟩ := h.accounts
  refine ⟨u, hr, ?_, ?_, ?_, ?_, ⟨?_, h.prompt.2⟩, entries, ?_, ha'⟩
  · rw [hu.context_eq, h.context_eq]
  · rw [hu.heights_eq, h.heights_eq]
  · rw [hu.service_eq]
    exact h.threshold_eq
  · rw [hu.service_eq]
    exact ⟨rfl, h.buffering_eq.2⟩
  · rw [hu.service_eq]
    exact fun _ => rfl
  · rw [hu.service_eq]
    exact (ha.trans_nil (Service.accounts_flushed _)).trans_nil (.of_same rfl rfl rfl)

end Station.Abreast

namespace Rig

/-- Two rigs with the same simulator, at stations that have accepted the same entries. -/
structure Abreast (start : Service) (b b' : Bool) (r r' : Rig α) : Prop where
  simulator_eq : r.simulator = r'.simulator
  station : Station.Abreast start b b' r.station r'.station

/-- The outlets matter to an observation only in that they are written to. -/
theorem observe_abreast (height : α) (observers : List (HeightSink α)) {o o' : Outlets}
    (h : o.heights = o'.heights) :
    (observe height observers o).complaint = (observe height observers o').complaint ∧
      (observe height observers o).observers = (observe height observers o').observers ∧
      (observe height observers o).outlets.heights = (observe height observers o').outlets.heights := by
  induction observers generalizing o o' with
  | nil => exact ⟨rfl, rfl, h⟩
  | cons sink rest ih =>
    simp only [observe]
    split
    · exact ⟨rfl, rfl, h⟩
    · have hn : (o.noteHeight (sink.handed height).tag (Scalar.toFloat height)).heights =
          (o'.noteHeight (sink.handed height).tag (Scalar.toFloat height)).heights := by
        rw [Outlets.heights_noteHeight, Outlets.heights_noteHeight, h]
      obtain ⟨hc, ho, hh⟩ := ih hn
      exact ⟨hc, congrArg (sink.handed height :: ·) ho, hh⟩

namespace Abreast
variable {β : Type} {start : Service} {b b' : Bool} {r r' : Rig α}

theorem atStation {x y : Action Station β} (h : Abreast start b b' r r')
    (ht : Tally (Station.Abreast start b b') (x.run r.station) (y.run r'.station)) :
    Tally (Abreast start b b') ((Rig.atStation x).run r) ((Rig.atStation y).run r') :=
  ⟨ht.outcome_eq, ht.not_aborted, h.simulator_eq, ht.related⟩

theorem log (hc : start.Compliant) (h : Abreast start b b' r r') (level : Level) (message : String) :
    Tally (Abreast start b b') ((Rig.log level message).run r) ((Rig.log level message).run r') := by
  have ht := h.atStation (h.station.log hc level (Scalar.toFloat r.simulator.time) message)
  rw [Rig.log, run_bind_returned (run_read _ r), run_bind_returned (run_read _ r'), ← h.simulator_eq]
  exact ht

theorem reject (hc : start.Compliant) (h : Abreast start b b' r r') (problem : TickProblem) (elapsed : α) :
    Tally (Abreast start b b') ((Rig.reject problem elapsed).run r)
      ((Rig.reject problem elapsed).run r') := by
  rw [Rig.reject, run_bind_returned (run_read _ r), run_bind_returned (run_read _ r'), ← h.simulator_eq]
  exact h.atStation (h.station.reject hc _ _ _)

theorem announce (hc : start.Compliant) (h : Abreast start b b' r r') (tick : Tick α) :
    Tally (Abreast start b b') ((Rig.announce tick).run r) ((Rig.announce tick).run r') := by
  rw [Rig.announce, run_bind_returned (run_read _ r), run_bind_returned (run_read _ r'), ← h.simulator_eq]
  split
  · exact h.log hc _ _
  · exact .returned () h

theorem logHeight (hc : start.Compliant) (h : Abreast start b b' r r') (height : α) :
    Tally (Abreast start b b') ((Rig.logHeight height).run r) ((Rig.logHeight height).run r') := by
  rw [Rig.logHeight, run_bind_returned (run_read _ r), run_bind_returned (run_read _ r'),
    Service.accepts, Service.accepts, ← h.station.threshold_eq]
  split
  · exact h.log hc _ _
  · exact .returned () h

theorem emit (h : Abreast start b b' r r') (height : α) :
    Tally (Abreast start b b') ((Rig.emit height).run r) ((Rig.emit height).run r') := by
  obtain ⟨s, st⟩ := r
  obtain ⟨s', st'⟩ := r'
  obtain ⟨hs, hst⟩ := h
  change s = s' at hs
  subst hs
  obtain ⟨hc, ho, hh⟩ := observe_abreast height s.observers hst.heights_eq
  have hr : Abreast start b b' (observed ⟨s, st⟩ (observe height s.observers st.outlets))
      (observed ⟨s, st'⟩ (observe height s.observers st'.outlets)) := by
    refine ⟨?_, hst.context_eq, hh, hst.threshold_eq, hst.buffering_eq, hst.prompt, hst.accounts⟩
    simp only [observed, ho]
  simp only [Rig.emit, ← hc]
  split
  · exact .raised _ hr
  · exact .returned () hr

/-- Under a context the stations stay abreast, and so they do when it is left. -/
theorem within (h : Abreast start b b' r r') (context : Context) {body : Action (Rig α) Unit}
    (hb : ∀ r r', Abreast start b b' r r' → Tally (Abreast start b b') (body.run r) (body.run r')) :
    Tally (Abreast start b b') ((Rig.within context body).run r) ((Rig.within context body).run r') := by
  have ht := hb { r with station := { r.station with context } }
    { r' with station := { r'.station with context } } ⟨h.simulator_eq, h.station.under context⟩
  change Tally _ ((body.closing (Rig.atStation (Station.leave r.station.context))).run _)
    ((body.closing (Rig.atStation (Station.leave r'.station.context))).run _)
  rw [← h.station.context_eq]
  refine ht.closing fun s t hst => ?_
  exact ⟨_, _, rfl, rfl, hst.simulator_eq, hst.station.under _⟩

theorem take (hc : start.Compliant) (h : Abreast start b b' r r') (elapsed : α) :
    Tally (Abreast start b b') ((Rig.take elapsed).run r) ((Rig.take elapsed).run r') := by
  rw [Rig.take, run_bind_returned (run_read _ r), run_bind_returned (run_read _ r'), ← h.simulator_eq]
  refine .bind (R := Abreast start b b') ?_ fun _ _ _ hr => ?_
  · refine .returned () ⟨?_, h.station⟩
    simp only [h.simulator_eq]
  · exact .bind (hr.announce hc _) fun _ _ _ hr =>
      .bind (hr.logHeight hc _) fun _ _ _ hr => hr.emit _

theorem step (hc : start.Compliant) (elapsed : α) (h : Abreast start b b' r r') :
    Tally (Abreast start b b') ((Rig.step elapsed).run r) ((Rig.step elapsed).run r') := by
  unfold Rig.step
  split
  · exact h.reject hc _ _
  · split
    · exact h.reject hc _ _
    · exact h.within _ fun _ _ hr => hr.take hc _

/-- Holding the log for the length of a body makes no difference but to the batches. -/
theorem buffered (hc : start.Compliant) (h : Abreast start false b' r r') {body : Action (Rig α) Unit}
    (hb : ∀ r r', Abreast start true b' r r' → Tally (Abreast start true b') (body.run r) (body.run r')) :
    Tally (Abreast start false b') ((Rig.buffered body).run r) (body.run r') := by
  have ht := hb { r with station := { r.station with service := r.station.service.buffer true } } r'
    ⟨h.simulator_eq, h.station.openScope⟩
  change Tally _ ((body.closing
    (Rig.atStation (Station.closeScope r.station.service.buffering))).run _) _
  have hp : body.run r' = (body.closing (pure ())).run r' := by rw [closing_pure]
  rw [h.station.buffering_eq.1, hp]
  refine ht.closing fun s t hst => ?_
  obtain ⟨u, hu, ha⟩ := hst.station.closeScope hc
  refine ⟨{ s with station := u }, t, ?_, rfl, hst.simulator_eq, ha⟩
  rw [Rig.atStation, run_onPart, hu]

end Abreast

/-- What a run stands for: its first entry, its steps up to the first that raises, and its last entry if
none did, each entry delivered at once unless the service is buffering anyway. -/
def stepThrough : Action (Rig α) Nat := do
  let s ← .read Rig.simulator
  log .info (Simulator.runningText s.ticksLeft s.setup.tickLength)
  .times (step s.setup.tickLength) s.ticksLeft
  let done ← .read Rig.simulator
  log .info done.completeText
  return s.ticksLeft

theorem run_tally {start : Service} (hc : start.Compliant) {r r' : Rig α}
    (h : Abreast start false false r r') (hl : r.simulator.hasTimeLeft = true) :
    Tally (Abreast start false false) (run.run r) (stepThrough.run r') := by
  rw [run, run_bind_returned (run_read _ r), if_pos hl, stepThrough, run_bind_returned (run_read _ r'),
    ← h.simulator_eq]
  refine .bind (h.log hc _ _) fun _ _ _ hr => .bind (hr.buffered hc fun _ _ hr => ?_) fun _ s t hr => ?_
  · exact .times (fun _ _ hr => hr.step hc _) _ hr
  · rw [run_bind_returned (run_read _ s), run_bind_returned (run_read _ t), ← hr.simulator_eq]
    exact .bind (hr.log hc _ _) fun _ _ _ hr => .returned _ hr

theorem stepThrough_returns {rig rig' : Rig α} {n : Nat} (h : stepThrough.run rig = (.returned n, rig')) :
    n = rig.simulator.ticksLeft := by
  rw [stepThrough, run_bind_returned (run_read _ rig)] at h
  refine Returns.bind ?_ _ _ _ h
  exact fun _ => .bind fun _ => .bind fun _ => .bind fun _ => .pure _

/-- With time left, sinks that never refuse, and a log that is not buffering and holds nothing, a run and
the loop of its steps end alike and leave the same simulator, observers and what they were handed included.
The same entries were accepted, and each sink of the log got the same ones in the same order. -/
theorem run_refines_steps (rig : Rig α) (hl : rig.simulator.hasTimeLeft = true)
    (hc : rig.station.service.Compliant) (hb : rig.station.service.buffering = false)
    (hh : rig.station.service.held = []) :
    ∃ outcome simulator st st',
      run.run rig = (outcome, ⟨simulator, st⟩) ∧ stepThrough.run rig = (outcome, ⟨simulator, st'⟩) ∧
      (outcome = .returned rig.simulator.ticksLeft ∨ ∃ failure, outcome = .raised failure) ∧
      st.context = st'.context ∧ st.outlets.heights = st'.outlets.heights ∧
      st.service.threshold = st'.service.threshold ∧ st.service.ledger = st'.service.ledger ∧
      (st.service.buffering = false ∧ st.service.held = []) ∧
      (st'.service.buffering = false ∧ st'.service.held = []) ∧
      List.Forall₂ (fun b c => b.sink = c.sink ∧ b.threshold = c.threshold ∧ b.entries = c.entries)
        st.service.slots st'.service.slots := by
  have hstart : Abreast rig.station.service false false rig rig :=
    ⟨rfl, rfl, rfl, rfl, ⟨hb, hb⟩, ⟨fun _ => hh, fun _ => hh⟩, [], .refl _, .refl _⟩
  obtain ⟨ho, hn, hs, hst⟩ := run_tally hc hstart hl
  rcases hr : run.run rig with ⟨outcome, s, st⟩
  rcases hr' : stepThrough.run rig with ⟨outcome', s', st'⟩
  rw [hr] at ho hn hs hst
  rw [hr'] at ho hs hst
  change outcome = outcome' at ho
  change s = s' at hs
  subst ho hs
  obtain ⟨given, ha, ha'⟩ := hst.accounts
  have held := hst.prompt.1 hst.buffering_eq.1
  have held' := hst.prompt.2 hst.buffering_eq.2
  refine ⟨outcome, s, st, st', rfl, rfl, ?_, hst.context_eq, hst.heights_eq, hst.threshold_eq, ?_,
    ⟨hst.buffering_eq.1, held⟩, ⟨hst.buffering_eq.2, held'⟩, ha.sinks_agree ha' held held'⟩
  · cases outcome with
    | returned n => exact .inl (congrArg _ (stepThrough_returns hr'))
    | raised failure => exact .inr ⟨failure, rfl⟩
    | aborted => exact absurd rfl hn
  · exact ha.ledger.trans ha'.ledger.symm

/-- Three ticks to go, the second of which an observer refuses. -/
def refusedDrop : Rig Float where
  simulator :=
    { setup := { SimulatorSetup.standard with finish := 0.03 }
      scene :=
        { sphere :=
            { radius := 1.0, mass := 500.0, height := 1.0, velocity := 0.0
              radius_positive := by decide, mass_positive := by decide }
          water := { density := 1000.0, density_positive := by decide }
          gravity := 9.81 }
      time := 0.0
      ticks := 0
      observers := [.recording "heights", .failing 1]
      latest := none
      serial := 0 }
  station := { service := { slots := [⟨.into (.batches "all"), .trace, []⟩], threshold := .debug } }

theorem refused_drop_refines_steps :
    refusedDrop.simulator.hasTimeLeft = true ∧ refusedDrop.station.service.Compliant ∧
      refusedDrop.station.service.buffering = false ∧ refusedDrop.station.service.held = [] ∧
      refusedDrop.simulator.ticksLeft = 3 ∧
      ∃ outcome simulator st st',
        run.run refusedDrop = (outcome, ⟨simulator, st⟩) ∧
        stepThrough.run refusedDrop = (outcome, ⟨simulator, st'⟩) ∧
        (outcome = .returned refusedDrop.simulator.ticksLeft ∨ ∃ failure, outcome = .raised failure) ∧
        st.context = st'.context ∧ st.outlets.heights = st'.outlets.heights ∧
        st.service.threshold = st'.service.threshold ∧ st.service.ledger = st'.service.ledger ∧
        (st.service.buffering = false ∧ st.service.held = []) ∧
        (st'.service.buffering = false ∧ st'.service.held = []) ∧
        List.Forall₂ (fun b c => b.sink = c.sink ∧ b.threshold = c.threshold ∧ b.entries = c.entries)
          st.service.slots st'.service.slots := by
  have hl : refusedDrop.simulator.hasTimeLeft = true := by decide
  have hc : refusedDrop.station.service.Compliant := by
    intro slot hm received
    rw [List.mem_singleton.mp hm]
    rfl
  exact ⟨hl, hc, rfl, rfl, by decide, run_refines_steps refusedDrop hl hc rfl rfl⟩

end Rig
end Flotation
