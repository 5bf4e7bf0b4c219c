import Flotation.Proofs.Session.ScopeExits

/-! The ways out of a run. Its steps are taken while the log is held, and what is held is delivered when they are
over, whether all went well or one of them failed. -/
namespace Flotation.Rig
open Flotation.Action
variable {α : Type} [Scalar α] {β : Type}

/-- How the steps of a run end and what they leave, before their log is delivered. There are no steps without time
left, or if a sink refuses the entry that announces them. -/
def course (rig : Rig α) : Option (Outcome Unit × Rig α) :=
  if rig.simulator.hasTimeLeft then
    match (log .info (Simulator.runningText rig.simulator.ticksLeft rig.simulator.setup.tickLength)).run rig with
    | (.returned (), begun) =>
      some ((Action.times (step rig.simulator.setup.tickLength) rig.simulator.ticksLeft).run begun.holding)
    | _ => none
  else none

theorem closings_eq_course (rig : Rig α) :
    rig.closings = (rig.course.map fun left => left.2.station.service).toList := by
  rw [closings, course]
  split
  · rcases (log .info (Simulator.runningText rig.simulator.ticksLeft rig.simulator.setup.tickLength)).run rig with
      ⟨_ | _ | _, begun⟩ <;> rfl
  · rfl

/-- No entry changes whether the log is buffering. -/
theorem keeps_log_buffering (level : Level) (message : String) :
    Keeps (fun rig : Rig α => rig.station.service.buffering) (log level message) := by
  have hs (time : Float) : Keeps (fun st : Station => st.service.buffering) (Station.log level time message) :=
    (Station.keeps_log level time message).mono fun view => view.2.2.1
  exact .bind (.read _) fun _ => .onPart (hs _) fun _ _ h => h

/-- If the log that a body leaves can be delivered, its outcome stands and the log is buffering as before. -/
theorem buffered_delivered {body : Action (Rig α) Unit} {rig : Rig α}
    (hb : (body.run rig.holding).1 ≠ .aborted)
    (hc : (body.run rig.holding).2.station.service.clogged = false) :
    ∃ closed, (buffered body).run rig = ((body.run rig.holding).1, closed) ∧
      closed.station.service.buffering = rig.station.service.buffering := by
  obtain ⟨st, hr, hservice⟩ := Station.closeScope_accepted rig.station.service.buffering hc
  have he : (buffered body).run rig =
      (body.closing (atStation (Station.closeScope rig.station.service.buffering))).run rig.holding := rfl
  refine ⟨{ (body.run rig.holding).2 with station := st }, ?_, ?_⟩
  · rw [he]
    exact closing_run hb (by rw [atStation, run_onPart, hr])
  · dsimp only
    rw [hservice]
    rfl

/-- What comes behind the steps of a run: the entry that sums it up. -/
def conclude (ticks : Nat) : Action (Rig α) Nat := do
  let done ← .read Rig.simulator
  log .info done.completeText
  return ticks

theorem keeps_conclude_buffering (ticks : Nat) :
    Keeps (fun rig : Rig α => rig.station.service.buffering) (conclude ticks) :=
  .bind (.read _) fun _ => .bind (keeps_log_buffering _ _) fun _ => .pure _

theorem run_of_hasTimeLeft {rig : Rig α} (h : rig.simulator.hasTimeLeft = true) :
    run.run rig =
      (log .info (Simulator.runningText rig.simulator.ticksLeft rig.simulator.setup.tickLength) >>= fun _ =>
        buffered (.times (step rig.simulator.setup.tickLength) rig.simulator.ticksLeft) >>= fun _ =>
        conclude rig.simulator.ticksLeft).run rig := by
  rw [run, run_bind_returned (run_read _ rig), if_pos h]
  rfl

/-- Steps whose log can be delivered, and what is behind them. -/
theorem concluded_exits {steps : Action (Rig α) Unit} {begun : Rig α} (ticks : Nat)
    (hb : (steps.run begun.holding).1 ≠ .aborted)
    (hc : (steps.run begun.holding).2.station.service.clogged = false) :
    (∀ failure, (steps.run begun.holding).1 = .raised failure →
        ((buffered steps >>= fun _ => conclude ticks).run begun).1 = .raised failure) ∧
      ((buffered steps >>= fun _ => conclude ticks).run begun).2.station.service.buffering =
        begun.station.service.buffering := by
  obtain ⟨closed, he, hbuffering⟩ := buffered_delivered hb hc
  cases ho : (steps.run begun.holding).1 with
  | returned _ =>
    rw [ho] at he
    rw [run_bind_returned he, ← hbuffering]
    exact ⟨nofun, (keeps_conclude_buffering ticks closed).2⟩
  | raised failure =>
    rw [ho] at he
    rw [run_bind_raised he]
    refine ⟨?_, hbuffering⟩
    rintro _ ⟨⟩
    rfl
  | aborted => exact absurd ho hb

theorem course_of_begun {rig begun : Rig α} (hl : rig.simulator.hasTimeLeft = true)
    (hr : (log .info (Simulator.runningText rig.simulator.ticksLeft rig.simulator.setup.tickLength)).run rig =
      (.returned (), begun)) :
    rig.course =
      some ((Action.times (step rig.simulator.setup.tickLength) rig.simulator.ticksLeft).run begun.holding) := by
  rw [course, if_pos hl, hr]

theorem run_aborted_iff (rig : Rig α) :
    (run.run rig).1 = .aborted ↔
      ∃ outcome left, rig.course = some (outcome, left) ∧ left.station.service.clogged = true := by
  rw [run_aborts_iff, closings_eq_course]
  cases rig.course with
  | none => simp
  | some ended => simp [Prod.ext_iff]

/-- The ways out of a run whose first entry has been accepted. -/
theorem exits_of_begun {rig begun : Rig α} (hl : rig.simulator.hasTimeLeft = true)
    (hr : (log .info (Simulator.runningText rig.simulator.ticksLeft rig.simulator.setup.tickLength)).run rig =
      (.returned (), begun)) :
    (∀ failure left, rig.course = some (.raised failure, left) →
        (run.run rig).1 = if left.station.service.clogged then .aborted else .raised failure) ∧
      ((run.run rig).1 ≠ .aborted →
        (run.run rig).2.station.service.buffering = rig.station.service.buffering) := by
  have hlog := (keeps_log_buffering .info
    (Simulator.runningText rig.simulator.ticksLeft rig.simulator.setup.tickLength) rig).2
  have hsteps := ((steady_step rig.simulator.setup.tickLength).times rig.simulator.ticksLeft begun.holding).1
  have haborts := run_aborted_iff rig
  rw [hr] at hlog
  rw [course_of_begun hl hr] at haborts ⊢
  cases hc : ((Action.times (step rig.simulator.setup.tickLength) rig.simulator.ticksLeft).run
      begun.holding).2.station.service.clogged with
  | true =>
    have ha := haborts.mpr ⟨_, _, rfl, hc⟩
    refine ⟨fun failure left hs => ?_, fun hn => absurd ha hn⟩
    rw [ha, if_pos (by rw [← hc, Option.some.inj hs])]
  | false =>
    obtain ⟨hraised, hbuffering⟩ := concluded_exits rig.simulator.ticksLeft hsteps hc
    rw [run_of_hasTimeLeft hl, run_bind_returned hr]
    refine ⟨fun failure left hs => ?_, fun _ => hbuffering.trans hlog⟩
    have hs := Option.some.inj hs
    rw [hs] at hc
    rw [hraised failure (congrArg Prod.fst hs), hc]
    rfl

/-- A run aborts the program if, and only if, a sink refuses the log of its steps when it is delivered at the end. A
failure of one of the steps is raised unless that happens. Control comes back in all other cases, with a value or with
a failure, and the log is then buffering as it was before the run. -/
theorem run_exits (rig : Rig α) :
    ((run.run rig).1 = .aborted ↔
        ∃ outcome left, rig.course = some (outcome, left) ∧ left.station.service.clogged = true) ∧
      (∀ failure left, rig.course = some (.raised failure, left) →
        (run.run rig).1 = if left.station.service.clogged then .aborted else .raised failure) ∧
      ((run.run rig).1 ≠ .aborted →
        (run.run rig).2.station.service.buffering = rig.station.service.buffering) := by
  refine ⟨run_aborted_iff rig, ?_⟩
  by_cases hl : rig.simulator.hasTimeLeft = true
  · have hlog := keeps_log_buffering .info
      (Simulator.runningText rig.simulator.ticksLeft rig.simulator.setup.tickLength) rig
    rcases hr : (log .info (Simulator.runningText rig.simulator.ticksLeft rig.simulator.setup.tickLength)).run rig
      with ⟨_ | failure | _, begun⟩ <;> rw [hr] at hlog
    · exact exits_of_begun hl hr
    · have hnone : rig.course = none := by
        rw [course, if_pos hl, hr]
      rw [hnone, run_of_hasTimeLeft hl, run_bind_raised hr]
      exact ⟨fun _ _ h => (nomatch h), fun _ => hlog.2⟩
    · exact absurd rfl hlog.1
  · have hnone : rig.course = none := if_neg hl
    rw [hnone, run, run_bind_returned (run_read _ rig), if_neg hl]
    exact ⟨fun _ _ h => (nomatch h), fun _ => rfl⟩

/-- The end is two ticks after the start. -/
def brief : SimulatorSetup Float := { SimulatorSetup.standard with finish := 0.02 }

/-- An observer is added that refuses the height of the second tick. -/
def tripped : List (Call Float) := [.addObserver (some (.failing 1))]

/-- A sink is put up that refuses the first batch in which there is an event. -/
def jammed : List (Call Float) :=
  [.meanwhile fun st => { st with service := st.service.attachSink (.failing 1 .nowhere) .event }]

theorem tripped_run_raises :
    ∃ start st rig failure left,
      (Simulator.create brief).run {} = (.returned start, st) ∧ (Rig.mk start st).after tripped = some rig ∧
        rig.course = some (.raised failure, left) ∧ left.station.service.clogged = false ∧
        (run.run rig).1 = .raised failure ∧
        (run.run rig).2.station.service.buffering = rig.station.service.buffering := by
  have hm : (Simulator.launched brief {}).any (fun new =>
      (new.after tripped).any fun rig =>
        rig.course.any fun ended =>
          !ended.1.calm && !ended.1.aborts && !ended.2.station.service.clogged) = true := by
    decide +kernel
  obtain ⟨⟨start, st⟩, hn, hm⟩ := (Option.any_eq_true _ _).mp hm
  obtain ⟨rig, ha, hm⟩ := (Option.any_eq_true _ _).mp hm
  obtain ⟨⟨outcome, left⟩, hcourse, hm⟩ := (Option.any_eq_true _ _).mp hm
  obtain ⟨ho, hc⟩ := Bool.and_eq_true_iff.mp hm
  cases outcome with
  | returned _ => cases ho
  | raised failure =>
    have hclogged : left.station.service.clogged = false := (Bool.not_eq_true' _).mp hc
    obtain ⟨-, hraised, hkeeps⟩ := run_exits rig
    have hr := hraised failure left hcourse
    rw [hclogged, if_neg Bool.false_ne_true] at hr
    exact ⟨start, st, rig, failure, left, Simulator.create_of_launched hn, ha, hcourse, hclogged, hr,
      hkeeps (by simp [hr])⟩
  | aborted => cases ho

/-- The log of the ticks cannot be delivered, and the program does not get over that. -/
theorem jammed_run_aborts :
    ∃ start st rig,
      (Simulator.create brief).run {} = (.returned start, st) ∧ (Rig.mk start st).after jammed = some rig ∧
        (run.run rig).1 = .aborted := by
  have hm : (Simulator.launched brief {}).any (fun new =>
      (new.after jammed).any fun rig => rig.closings.any Service.clogged) = true := by
    decide +kernel
  obtain ⟨⟨start, st⟩, hn, hm⟩ := (Option.any_eq_true _ _).mp hm
  obtain ⟨rig, ha, hm⟩ := (Option.any_eq_true _ _).mp hm
  exact ⟨start, st, rig, Simulator.create_of_launched hn, ha,
    (run_aborts_iff rig).mpr (List.any_eq_true.mp hm)⟩

end Flotation.Rig
