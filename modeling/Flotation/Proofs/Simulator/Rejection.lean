import Flotation.Proofs.Simulator.LogActs

/-! Rejected ticks: what a step of a length that cannot be taken raises, and what the log gets of it. The entry
for the log comes before the fault, so a sink that refuses the one takes the place of the other. -/
namespace Flotation
open Flotation.Action
variable {α : Type} [Scalar α]

/-- The first complaint ends a delivery, whatever is written to the outlets. -/
theorem deliver_complaint_eq (batch : List Entry) (slots : List Slot) (outlets : Outlets) :
    (deliver batch slots outlets).complaint = slots.findSome? (·.objection batch) := by
  induction slots generalizing outlets with
  | nil => rfl
  | cons slot rest ih =>
    rw [deliver_cons, List.findSome?_cons]
    cases slot.objection batch with
    | none => exact ih _
    | some reason => rfl

namespace Service

/-- What the first sink that refuses the entry has against it, if the entry gets to the sinks at once. -/
def protest (s : Service) (entry : Entry) : Option String :=
  if s.accepts entry.level && !s.buffering then s.slots.findSome? (·.objection [entry]) else none

/-- No sink protests against an entry that is dropped or held, or that all sinks put up with. -/
theorem protest_eq_none {s : Service} {entry : Entry} :
    s.protest entry = none ↔
      s.accepts entry.level = false ∨ s.buffering = true ∨ ∀ slot ∈ s.slots, slot.objection [entry] = none := by
  rw [protest]
  cases s.accepts entry.level with
  | false => exact iff_of_true rfl (.inl rfl)
  | true =>
    cases s.buffering with
    | true => exact iff_of_true rfl (.inr (.inl rfl))
    | false => simp

theorem protest_eq_some {s : Service} {entry : Entry} {reason : String} :
    s.protest entry = some reason ↔
      s.accepts entry.level = true ∧ s.buffering = false ∧
        s.slots.findSome? (·.objection [entry]) = some reason := by
  rw [protest]
  cases s.accepts entry.level <;> cases s.buffering <;> simp

/-- An accepted entry is in the ledger, whether a sink protests or not. -/
theorem ledger_undergo_log (s : Service) (entry : Entry) :
    (s.undergo (.log entry)).ledger = if s.accepts entry.level then entry :: s.ledger else s.ledger := by
  rw [undergo]
  split_ifs <;> rfl

end Service

namespace Station

theorem logEntry_outcome (entry : Entry) (st : Station) :
    ((logEntry entry).run st).1 =
      match st.service.protest entry with
      | none => .returned ()
      | some reason => .raised (.sink reason) := by
  rw [Service.protest]
  rcases logEntry_cases entry st with ⟨ha, hr⟩ | ⟨ha, ⟨hb, hr⟩ | ⟨hb, hr⟩⟩ <;> rw [ha, hr]
  · rfl
  · rw [hb]
    rfl
  · rw [hb, dispatch_run, deliver_complaint_eq, Bool.not_false, Bool.and_true, if_pos rfl]
    dsimp only [Service.enter]
    cases st.service.slots.findSome? (·.objection [entry]) with
    | none => rfl
    | some reason => rfl

/-- The fault is raised if the entry for it goes through. -/
theorem reject_outcome {β : Type} (fault : Fault) (time : Float) (component : String) (st : Station) :
    ((reject fault time component : Action Station β).run st).1 =
      .raised
        (match st.service.protest (fault.entry time component st.context) with
        | none => .fault fault
        | some reason => .sink reason) := by
  have ho := logEntry_outcome (fault.entry time component st.context) st
  have hr : (report fault time component).run st = (logEntry (fault.entry time component st.context)).run st := rfl
  rw [reject, run_bind, hr]
  rcases he : (logEntry (fault.entry time component st.context)).run st with ⟨outcome, after⟩
  rw [he] at ho
  cases hp : st.service.protest (fault.entry time component st.context) with
  | none =>
    rw [hp] at ho
    change outcome = .returned () at ho
    rw [ho]
    rfl
  | some reason =>
    rw [hp] at ho
    change outcome = .raised (.sink reason) at ho
    rw [ho]

end Station

namespace Rig

theorem step_of_tickProblem {elapsed : α} {problem : TickProblem} (h : tickProblem? elapsed = some problem) :
    step elapsed = reject problem elapsed := by
  rw [step_eq, h]

theorem reject_outcome (problem : TickProblem) (elapsed : α) (rig : Rig α) :
    ((reject problem elapsed).run rig).1 =
      .raised
        (match rig.station.service.protest
            (rig.simulator.motion.rejection rig.station.context problem elapsed) with
        | none => .fault (.tick problem (some ⟨Scalar.toFloat rig.simulator.time, Scalar.toFloat elapsed⟩))
        | some reason => .sink reason) := by
  rw [reject, run_bind_returned (run_read _ rig), atStation, run_onPart, Motion.rejection_eq]
  exact Station.reject_outcome _ _ _ rig.station

/-- The fault is on its way before it is raised: the entry for it is logged as any other is. -/
theorem reject_service (problem : TickProblem) (elapsed : α) (rig : Rig α) :
    ((reject problem elapsed).run rig).2.station.service =
      rig.station.service.undergo
        (.log (rig.simulator.motion.rejection rig.station.context problem elapsed)) :=
  (reject_undergoes problem elapsed rig).1.service_eq

/-- A step of a length that cannot be taken raises the fault that carries its length and the time, unless the
entry for it gets to a sink that refuses it: then it is the complaint of the first such sink that is raised in
place of the fault. Either way the simulator is left as it was, and the entry, which is one of an error, is in the
ledger if the log accepts errors. -/
theorem rejection_yields_to_sinks (rig : Rig α) {elapsed : α} (h : ¬ Scalar.isFinite elapsed ∨ elapsed < 0.0) :
    ∃ problem entry,
      tickProblem? elapsed = some problem ∧
      entry = rig.simulator.motion.rejection rig.station.context problem elapsed ∧ entry.level = .error ∧
      (((step elapsed).run rig).1 =
          .raised (.fault (.tick problem (some ⟨Scalar.toFloat rig.simulator.time, Scalar.toFloat elapsed⟩))) ↔
        rig.station.service.accepts .error = false ∨ rig.station.service.buffering = true ∨
          ∀ slot ∈ rig.station.service.slots, slot.objection [entry] = none) ∧
      (∀ reason, ((step elapsed).run rig).1 = .raised (.sink reason) ↔
        rig.station.service.accepts .error = true ∧ rig.station.service.buffering = false ∧
          rig.station.service.slots.findSome? (·.objection [entry]) = some reason) ∧
      ((step elapsed).run rig).2.simulator = rig.simulator ∧
      ((step elapsed).run rig).2.station.service.ledger =
        if rig.station.service.accepts .error then entry :: rig.station.service.ledger
        else rig.station.service.ledger := by
  cases hp : tickProblem? elapsed with
  | none => exact absurd h (tickProblem?_eq_none.mp hp)
  | some problem =>
    let entry := rig.simulator.motion.rejection rig.station.context problem elapsed
    have ho := reject_outcome problem elapsed rig
    have hlevel : entry.level = .error := rfl
    refine ⟨problem, entry, rfl, rfl, hlevel, ?_, fun reason => ?_, congrArg Prod.fst (step_rejects h rig).2, ?_⟩
    · rw [step_of_tickProblem hp, ho, ← hlevel, ← Service.protest_eq_none]
      cases rig.station.service.protest entry with
      | none => exact iff_of_true rfl rfl
      | some reason => exact iff_of_false nofun nofun
    · rw [step_of_tickProblem hp, ho, ← hlevel, ← Service.protest_eq_some]
      cases rig.station.service.protest entry with
      | none => exact iff_of_false nofun nofun
      | some first =>
        constructor
        · rintro ⟨⟩
          rfl
        · rintro ⟨⟩
          rfl
    · rw [step_of_tickProblem hp, reject_service, Service.ledger_undergo_log, hlevel]

/-- A sink that refuses the first batch it gets is put up at the station of a simulator. -/
def spoilt : List (Call Float) :=
  [.meanwhile fun st => { st with service := st.service.attachSink (.failing 1 .nowhere) .trace }]

/-- A sink has nothing against the second rejection after it has refused the first. -/
theorem second_rejection_reported :
    ∃ start st rig problem entry,
      (Simulator.create (.standard : SimulatorSetup Float)).run {} = (.returned start, st) ∧
        (Rig.mk start st).after (spoilt ++ [.step (-0.5)]) = some rig ∧
        (¬ Scalar.isFinite (-1.0 : Float) ∨ (-1.0 : Float) < 0.0) ∧
        tickProblem? (-1.0 : Float) = some problem ∧
        entry = rig.simulator.motion.rejection rig.station.context problem (-1.0) ∧
        ((step (-1.0)).run rig).1 = .raised (.fault (.tick problem (some ⟨rig.simulator.time, -1.0⟩))) ∧
        ((step (-1.0)).run rig).2.simulator = rig.simulator ∧
        ((step (-1.0)).run rig).2.station.service.ledger = entry :: rig.station.service.ledger := by
  have hm : (Simulator.launched (.standard : SimulatorSetup Float) {}).any (fun new =>
      (new.after (spoilt ++ [.step (-0.5)])).any fun rig =>
        rig.station.service.accepts .error &&
          rig.station.service.slots.all fun slot => (slot.objection
            [rig.simulator.motion.rejection rig.station.context .negative (-1.0)]).isNone) = true := by
    decide +kernel
  obtain ⟨⟨start, st⟩, hn, hm⟩ := (Option.any_eq_true _ _).mp hm
  obtain ⟨rig, ha, hm⟩ := (Option.any_eq_true _ _).mp hm
  obtain ⟨haccepts, hslots⟩ := Bool.and_eq_true_iff.mp hm
  have hneg : (-1.0 : Float) < 0.0 := by decide
  have hp : tickProblem? (-1.0 : Float) = some .negative := by decide +kernel
  obtain ⟨problem, entry, hproblem, hentry, -, hfault, -, hsim, hledger⟩ :=
    rejection_yields_to_sinks rig (.inr hneg)
  obtain rfl : TickProblem.negative = problem := Option.some.inj (hp.symm.trans hproblem)
  have hcontent : ∀ slot ∈ rig.station.service.slots, slot.objection [entry] = none := by
    intro slot hslot
    rw [hentry]
    exact Option.isNone_iff_eq_none.mp (List.all_eq_true.mp hslots slot hslot)
  rw [haccepts, if_pos rfl] at hledger
  exact ⟨start, st, rig, .negative, entry, Simulator.create_of_launched hn, ha, .inr hneg, hproblem, hentry,
    hfault.mpr (.inr (.inr hcontent)), hsim, hledger⟩

/-- Before that, it is the complaint of the sink that the caller gets to see. -/
theorem first_rejection_unreported :
    ∃ start st rig,
      (Simulator.create (.standard : SimulatorSetup Float)).run {} = (.returned start, st) ∧
        (Rig.mk start st).after spoilt = some rig ∧ ¬ Scalar.isFinite (0.0 / 0.0 : Float) ∧
        ((step (0.0 / 0.0)).run rig).1 = .raised (.sink "log sink failed") := by
  have hm : (Simulator.launched (.standard : SimulatorSetup Float) {}).any (fun new =>
      (new.after spoilt).any fun rig =>
        rig.station.service.protest
            (rig.simulator.motion.rejection rig.station.context .notFinite (0.0 / 0.0)) =
          some "log sink failed") = true := by
    decide +kernel
  obtain ⟨⟨start, st⟩, hn, hm⟩ := (Option.any_eq_true _ _).mp hm
  obtain ⟨rig, ha, hm⟩ := (Option.any_eq_true _ _).mp hm
  have hf : ¬ Scalar.isFinite (0.0 / 0.0 : Float) := by decide +kernel
  have hp : tickProblem? (0.0 / 0.0 : Float) = some .notFinite := if_pos hf
  refine ⟨start, st, rig, Simulator.create_of_launched hn, ha, hf, ?_⟩
  rw [step_of_tickProblem hp, reject_outcome, of_decide_eq_true hm]

end Rig
end Flotation
