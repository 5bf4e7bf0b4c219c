import Flotation.Proofs.Log.Acts
import Flotation.Proofs.Simulator.Telling

/-! What simulators do to the log: the acts of steps, runs and resets, and of simulators that are made and taken
down, whatever their sinks and observers refuse. -/
namespace Flotation
open Flotation.Action Station
variable {α : Type} [Scalar α]

/-- What is logged of a fault. -/
def Fault.entry (fault : Fault) (time : Float) (component : String) (context : Context) : Entry :=
  ⟨fault.severity.level, time, fault.message,
    ⟨context.entity, if component.isEmpty then fault.category else component⟩⟩

theorem Motion.rejection_eq (m : Motion α) (context : Context) (problem : TickProblem) (elapsed : α) :
    m.rejection context problem elapsed =
      (Fault.tick problem (some ⟨Scalar.toFloat m.time, Scalar.toFloat elapsed⟩)).entry
        (Scalar.toFloat m.time) Simulator.component context := by
  rw [Fault.entry, if_neg (by decide)]
  rfl

theorem Service.logging_singleton (s : Service) (entry : Entry) : s.logging [entry] = [entry] := by
  rw [logging, logging, ite_self]

namespace Station

theorem report_undergoes (fault : Fault) (time : Float) (component : String) (st : Station) :
    Undergoes [.log (fault.entry time component st.context)] st ((report fault time component).run st).2 ∧
      ((report fault time component).run st).1 ≠ .aborted := by
  obtain ⟨st', hu, ⟨-, hr⟩ | ⟨-, reason, hr⟩⟩ := logEntry_undergoes (fault.entry time component st.context) st
  all_goals
    have he : (report fault time component).run st = _ := hr
    rw [he]
    exact ⟨hu, by simp⟩

theorem reject_undergoes {β : Type} (fault : Fault) (time : Float) (component : String) (st : Station) :
    Undergoes [.log (fault.entry time component st.context)] st
        ((reject fault time component : Action Station β).run st).2 ∧
      ((reject fault time component : Action Station β).run st).1 ≠ .aborted := by
  obtain ⟨hu, hn⟩ := report_undergoes fault time component st
  rw [reject, run_bind]
  rcases hr : (report fault time component).run st with ⟨_ | _ | _, st'⟩ <;> rw [hr] at hu hn
  · exact ⟨hu, by simp⟩
  · exact ⟨hu, by simp⟩
  · exact absurd rfl hn

end Station

namespace Rig

/-- A step logs what there is to be told of it. -/
def stepActs (elapsed : α) (rig : Rig α) : List Act :=
  (rig.station.service.logging (rig.simulator.motion.stepEntries rig.station.context elapsed)).map .log

/-- So does a step of the length in the setup. -/
def nominalActs (rig : Rig α) : List Act := rig.stepActs rig.simulator.setup.tickLength

/-- A body that is known by its acts, a number of times: the first that raises is the last. -/
def seriesActs (body : Action (Rig α) Unit) (acts : Rig α → List Act) : Nat → Rig α → List Act
  | 0, _ => []
  | n + 1, rig =>
    acts rig ++
      match body.run rig with
      | (.returned (), rig) => seriesActs body acts n rig
      | _ => []

/-- A series of steps while the log is held, and the delivery. -/
def heldSeriesActs (elapsed : α) (n : Nat) (rig : Rig α) : List Act :=
  .buffer true :: (seriesActs (step elapsed) (stepActs elapsed) n rig.holding ++
    ((Action.times (step elapsed) n).run rig.holding).2.station.service.scopeClosing
      rig.station.service.buffering)

/-- A run logs how it begins, and how it has ended unless something was raised. -/
def runActs (rig : Rig α) : List Act :=
  if rig.simulator.hasTimeLeft then
    .log (rig.simulator.runningEntry rig.station.context) ::
      match (log .info (Simulator.runningText rig.simulator.ticksLeft rig.simulator.setup.tickLength)).run
          rig with
      | (.returned (), begun) =>
        begun.heldSeriesActs rig.simulator.setup.tickLength rig.simulator.ticksLeft ++
          match (buffered (.times (step rig.simulator.setup.tickLength) rig.simulator.ticksLeft)).run
              begun with
          | (.returned (), done) => [.log (done.simulator.completeEntry done.station.context)]
          | _ => []
      | _ => []
  else []

def resetActs (rig : Rig α) : List Act :=
  match rig.simulator.setup.build with
  | .ok _ => [.log (rig.simulator.resetEntry rig.station.context)]
  | .error _ => []

variable {rig : Rig α}

/-- What logging a message comes to. -/
theorem log_undergoes (rig : Rig α) {level : Level} {message : String} {entry : Entry}
    (he : ⟨level, Scalar.toFloat rig.simulator.time, message, rig.station.context⟩ = entry) :
    ∃ st', rig.station.Undergoes [.log entry] st' ∧ st'.context = rig.station.context ∧
      (rig.station.service.refuses entry = false ∧
          (log level message).run rig = (.returned (), { rig with station := st' }) ∨
        rig.station.service.refuses entry = true ∧
          ∃ reason, (log level message).run rig = (.raised (.sink reason), { rig with station := st' })) := by
  have hl : (Station.log level (Scalar.toFloat rig.simulator.time) message).run rig.station =
      (logEntry entry).run rig.station := he ▸ rfl
  have hk := (keeps_logEntry entry rig.station).2
  rw [log, run_bind_returned (run_read _ rig), atStation, run_onPart, hl]
  obtain ⟨st', hu, ⟨hn, hr⟩ | ⟨hn, reason, hr⟩⟩ := logEntry_undergoes entry rig.station <;> rw [hr] at hk ⊢
  · exact ⟨st', hu, congrArg (fun view => view.1) hk, .inl ⟨hn, rfl⟩⟩
  · exact ⟨st', hu, congrArg (fun view => view.1) hk, .inr ⟨hn, reason, rfl⟩⟩

theorem emit_undergoes (height : α) (rig : Rig α) :
    rig.station.Undergoes [] ((emit height).run rig).2.station := by
  simp only [emit]
  split
  · exact .of_service_eq rfl rfl
  · exact .of_service_eq rfl rfl

/-- The height is logged only if that comes to something. -/
theorem showHeight_undergoes (rig : Rig α) (hc : rig.station.context = Simulator.tickContext) :
    rig.station.Undergoes [.log rig.simulator.motion.heightEntry]
      ((logHeight rig.simulator.height >>= fun _ => emit rig.simulator.height).run rig).2.station := by
  let text := "height=" ++ Decimal.fixed 6 (Scalar.toFloat rig.simulator.height)
  have hl : (logHeight rig.simulator.height).run rig =
      (if rig.station.service.accepts .debug then log .debug text else pure ()).run rig := by
    rw [logHeight, run_bind_returned (run_read _ rig)]
  cases ha : rig.station.service.accepts .debug with
  | true =>
    have he : ⟨.debug, Scalar.toFloat rig.simulator.time, text, rig.station.context⟩ =
        rig.simulator.motion.heightEntry := by
      rw [hc]
      rfl
    rw [ha, if_pos rfl] at hl
    obtain ⟨st', hu, -, ⟨-, hr⟩ | ⟨-, reason, hr⟩⟩ := log_undergoes rig he <;> rw [hr] at hl
    · rw [run_bind_returned hl]
      exact hu.trans (emit_undergoes _ { rig with station := st' })
    · rw [run_bind_raised hl]
      exact hu
  | false =>
    have hn : rig.station.service.undergo (.log rig.simulator.motion.heightEntry) = rig.station.service :=
      if_neg (ne_true_of_eq_false ha)
    rw [ha, if_neg Bool.false_ne_true, run_pure] at hl
    rw [run_bind_returned hl]
    exact (Undergoes.single hn.symm rfl fun _ => id).trans (emit_undergoes _ rig)

theorem tell_undergoes (rig : Rig α) {before : Motion α} {tick : Tick α}
    (ht : tick.submerged = before.submerged) (hh : tick.height = rig.simulator.height)
    (hc : rig.station.context = Simulator.tickContext) :
    rig.station.Undergoes
      ((rig.station.service.logging ((Motion.crossing? (before, rig.simulator.motion)).toList ++
        [rig.simulator.motion.heightEntry])).map .log)
      ((tell tick).run rig).2.station := by
  have ha : (announce tick).run rig = (if rig.simulator.motion.submerged ≠ before.submerged then
      log .event (Motion.waterText rig.simulator.motion.submerged) else pure ()).run rig := by
    rw [announce, run_bind_returned (run_read _ rig), ht]
    rfl
  rw [tell, hh, Motion.crossing?]
  dsimp only
  split_ifs at ha ⊢ with hs
  · let text := Motion.waterText rig.simulator.motion.submerged
    have he : (⟨.event, Scalar.toFloat rig.simulator.time, text, rig.station.context⟩ : Entry) =
        ⟨.event, Scalar.toFloat rig.simulator.motion.time, text, Simulator.tickContext⟩ := by
      rw [hc]
      rfl
    rw [Option.toList_some, List.singleton_append, Service.logging]
    obtain ⟨st', hu, hctx, ⟨hn, hr⟩ | ⟨hn, reason, hr⟩⟩ := log_undergoes rig he <;> rw [hr] at ha
    · rw [run_bind_returned ha, if_neg (ne_true_of_eq_false hn), Service.logging_singleton]
      exact hu.trans (showHeight_undergoes { rig with station := st' } (hctx.trans hc))
    · rw [run_bind_raised ha, if_pos hn]
      exact hu
  · rw [Option.toList_none, List.nil_append, Service.logging_singleton, run_bind_returned ha]
    exact showHeight_undergoes rig hc

/-- The context of the body is neither here nor there to the service. -/
theorem within_undergoes {context : Context} {body : Action (Rig α) Unit} {acts : List Act}
    (h : rig.station.Undergoes acts
      (body.run { rig with station := { rig.station with context } }).2.station)
    (hn : (body.run { rig with station := { rig.station with context } }).1 ≠ .aborted) :
    rig.station.Undergoes acts ((within context body).run rig).2.station ∧
      ((within context body).run rig).1 ≠ .aborted := by
  obtain ⟨ho, hs⟩ := run_within context hn
  rw [ho, hs]
  exact ⟨⟨h.service_eq, h.serials_le, h.serves⟩, hn⟩

theorem reject_undergoes (problem : TickProblem) (elapsed : α) (rig : Rig α) :
    rig.station.Undergoes [.log (rig.simulator.motion.rejection rig.station.context problem elapsed)]
        ((reject problem elapsed).run rig).2.station ∧
      ((reject problem elapsed).run rig).1 ≠ .aborted := by
  rw [reject, run_bind_returned (run_read _ rig), atStation, run_onPart, Motion.rejection_eq]
  exact Station.reject_undergoes _ _ _ rig.station

theorem step_undergoes (elapsed : α) (rig : Rig α) :
    rig.station.Undergoes (rig.stepActs elapsed) ((step elapsed).run rig).2.station ∧
      ((step elapsed).run rig).1 ≠ .aborted := by
  rw [stepActs, Motion.stepEntries, step_eq]
  cases tickProblem? elapsed with
  | none =>
    have ht : (rig.simulator.scene.tick elapsed).submerged = rig.simulator.motion.submerged := by
      rw [Tick.submerged, Scene.tick_ratio]
      rfl
    have hu := tell_undergoes ⟨rig.simulator.ticked elapsed,
      { rig.station with context := Simulator.tickContext }⟩ ht rfl rfl
    exact within_undergoes ⟨hu.service_eq, hu.serials_le, hu.serves⟩ (take_commits elapsed _).1
  | some problem =>
    dsimp only
    rw [Service.logging_singleton]
    exact reject_undergoes problem elapsed rig

theorem nominal_undergoes (rig : Rig α) :
    rig.station.Undergoes rig.nominalActs (stepNominal.run rig).2.station ∧
      (stepNominal.run rig).1 ≠ .aborted :=
  step_undergoes rig.simulator.setup.tickLength rig

theorem series_undergoes {body : Action (Rig α) Unit} {acts : Rig α → List Act}
    (h : ∀ rig : Rig α, rig.station.Undergoes (acts rig) (body.run rig).2.station ∧
      (body.run rig).1 ≠ .aborted) (n : Nat) (rig : Rig α) :
    rig.station.Undergoes (seriesActs body acts n rig) ((Action.times body n).run rig).2.station ∧
      ((Action.times body n).run rig).1 ≠ .aborted := by
  induction n generalizing rig with
  | zero => exact ⟨.refl _, by simp [Action.times]⟩
  | succ n ih =>
    obtain ⟨hu, hn⟩ := h rig
    rw [Action.times, seriesActs, run_bind]
    rcases hr : body.run rig with ⟨_ | _ | _, next⟩ <;> rw [hr] at hu hn
    · obtain ⟨hrest, hend⟩ := ih next
      exact ⟨hu.trans hrest, hend⟩
    · rw [List.append_nil]
      exact ⟨hu, by simp⟩
    · exact absurd rfl hn

theorem heldSeries_undergoes (elapsed : α) (n : Nat) (rig : Rig α) :
    rig.station.Undergoes (rig.heldSeriesActs elapsed n)
      ((buffered (.times (step elapsed) n)).run rig).2.station := by
  obtain ⟨hu, hn⟩ := series_undergoes (step_undergoes elapsed) n rig.holding
  have hstart : rig.station.Undergoes [.buffer true] rig.holding.station := .single rfl rfl fun _ => id
  have hclose := closing_leaves hn (atStation (Station.closeScope rig.station.service.buffering))
  have he : ((buffered (.times (step elapsed) n)).run rig).2.station = _ := congrArg Rig.station hclose
  rw [he]
  exact hstart.cons (hu.trans (Station.closeScope_undergoes _ _))

theorem run_undergoes (rig : Rig α) : rig.station.Undergoes rig.runActs (run.run rig).2.station := by
  rw [runActs, run, run_bind_returned (run_read _ rig)]
  by_cases hl : rig.simulator.hasTimeLeft = true
  · rw [if_pos hl, if_pos hl]
    have he : _ = rig.simulator.runningEntry rig.station.context := rfl
    obtain ⟨st', hu, -, ⟨-, hr⟩ | ⟨-, reason, hr⟩⟩ := log_undergoes rig he
    · have hheld := heldSeries_undergoes rig.simulator.setup.tickLength rig.simulator.ticksLeft
        { rig with station := st' }
      rw [run_bind_returned hr, hr]
      refine hu.cons ?_
      dsimp only
      rcases hb : (buffered (.times (step rig.simulator.setup.tickLength) rig.simulator.ticksLeft)).run
        { rig with station := st' } with ⟨_ | _ | _, done⟩ <;> rw [hb] at hheld
      · have he : _ = done.simulator.completeEntry done.station.context := rfl
        obtain ⟨st'', hlast, -, ⟨-, hd⟩ | ⟨-, reason, hd⟩⟩ := log_undergoes done he
        all_goals rw [run_bind_returned hb, run_bind_returned (run_read _ done)]
        · rw [run_bind_returned hd]
          exact hheld.trans hlast
        · rw [run_bind_raised hd]
          exact hheld.trans hlast
      · rw [run_bind_raised hb, List.append_nil]
        exact hheld
      · rw [run_bind_aborted hb, List.append_nil]
        exact hheld
    · rw [run_bind_raised hr, hr]
      exact hu
  · rw [if_neg hl, if_neg hl]
    exact .refl _

theorem reset_undergoes (rig : Rig α) : rig.station.Undergoes rig.resetActs (reset.run rig).2.station := by
  rw [resetActs, reset, run_bind_returned (run_read _ rig)]
  cases rig.simulator.setup.build with
  | error fault => exact .refl _
  | ok scene =>
    let fresh : Rig α := { rig with simulator := { rig.simulator with
      scene, time := rig.simulator.setup.start, ticks := 0, latest := none } }
    change rig.station.Undergoes _ ((log .info "Simulator reset").run fresh).2.station
    have he : _ = fresh.simulator.resetEntry fresh.station.context := rfl
    obtain ⟨st', hu, -, ⟨-, hr⟩ | ⟨-, reason, hr⟩⟩ := log_undergoes fresh he
    · rw [hr]
      exact hu
    · rw [hr]
      exact hu

end Rig

namespace Simulator

/-- The service is stripped, its ledger and its threshold are set anew, and the simulator's own sinks are put
up. -/
def takeOverActs (settings : LogSettings) (serial : Nat) : List Act :=
  [.detachSinks, .newLedger, .setThreshold settings.lowestLevel] ++
    (ownSlots settings (consoleId serial)).map fun slot => .attachSink slot.sink slot.threshold

/-- A simulator that is made takes the service over and announces itself. -/
def createActs (setup : SimulatorSetup α) (st : Station) : List Act :=
  match (create setup).run st with
  | (.returned new, _) =>
    takeOverActs setup.logging st.serials ++ [.log (readyEntry setup new.scene st.context)]
  | _ => []

theorem mem_takeOverActs {settings : LogSettings} {serial n : Nat} {act : Act}
    (h : act ∈ takeOverActs settings serial) (hs : act.Serves n) :
    n = serial ∧ ∃ sink, act = .attachSink sink settings.consoleLevel := by
  rw [takeOverActs, List.mem_append, List.mem_map] at h
  rcases h with h | ⟨slot, hm, rfl⟩
  · simp only [List.mem_cons, List.not_mem_nil, or_false] at h
    rcases h with rfl | rfl | rfl <;> exact hs.elim
  · rw [ownSlots, List.mem_cons] at hm
    rcases hm with rfl | hm
    · exact ⟨(ConsoleId.simulator.inj (Target.console.inj hs)).symm, _, rfl⟩
    · split_ifs at hm
      · rw [List.mem_singleton.mp hm] at hs
        cases hs
      · cases hm

theorem foldl_takeOverActs (settings : LogSettings) (serial : Nat) (service : Service) :
    (takeOverActs settings serial).foldl Service.undergo service =
      served settings (consoleId serial) service := by
  rw [served_eq, takeOverActs, ownSlots]
  split_ifs
  · rfl
  · rfl

theorem takeOver_undergoes (settings : LogSettings) (st : Station) (outlets : Outlets) :
    st.Undergoes (takeOverActs settings st.serials)
      { st with
        service := served settings (consoleId st.serials) st.service
        serials := st.serials + 1
        outlets } := by
  refine ⟨(foldl_takeOverActs _ _ _).symm, Nat.le_succ _, fun act ha serial hs => ?_⟩
  obtain ⟨rfl, -⟩ := mem_takeOverActs ha hs
  exact ⟨Nat.le_refl _, Nat.lt_succ_self _⟩

theorem create_undergoes (setup : SimulatorSetup α) (st : Station) :
    st.Undergoes (createActs setup st) ((create setup).run st).2 := by
  rw [createActs]
  cases hb : setup.build with
  | error fault =>
    rw [create_of_build_error hb st]
    exact .refl st
  | ok scene =>
    rcases takeOver_cases setup.logging st with ht | ⟨outlets, ht⟩
    · have hr : (create setup).run st = (.raised (.fault (.unwritableLog setup.logging.filePath)), st) := by
        rw [create, hb]
        exact run_bind_raised ht _
      rw [hr]
      exact .refl st
    · let taken : Station := { st with
        service := served setup.logging (consoleId st.serials) st.service, serials := st.serials + 1, outlets }
      have hc : Slot.someRefuse [readyEntry setup scene st.context] taken.service.slots = false :=
        Slot.someRefuse_compliant (served_compliant _ _ _) _
      obtain ⟨st', hu, ⟨-, hl⟩ | ⟨hn, -⟩⟩ := logEntry_undergoes (readyEntry setup scene st.context) taken
      · have hr : (create setup).run st =
            (.returned ⟨setup, scene, setup.start, 0, [], none, st.serials⟩, st') := by
          rw [create, hb]
          exact (run_bind_returned ht _).trans (run_bind_returned hl _)
        rw [hr]
        exact (takeOver_undergoes setup.logging st outlets).trans hu
      · -- the simulator's own sinks refuse nothing
        rw [Service.refuses, hc, Bool.and_false, Bool.and_false] at hn
        cases hn

theorem destroy_undergoes (s : Simulator α) (st : Station) :
    st.Undergoes st.service.takedown (s.destroy.run st).2 := by
  have hn : ((pure () : Action Station Unit).run st).1 ≠ .aborted := by simp
  rw [destroy, closing_leaves hn, Service.takedown, run_pure]
  obtain ⟨st', hu, ⟨hc, hr⟩ | ⟨hc, reason, hr⟩⟩ := flush_undergoes st
  · rw [run_bind_returned hr, hc]
    exact hu.cons (.single rfl rfl fun _ => id)
  · rw [run_bind_raised hr, hc]
    exact hu

end Simulator
end Flotation
