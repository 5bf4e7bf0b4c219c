import Flotation.Proofs.Log.Diary
import Flotation.Proofs.Simulator.Likeness
import Flotation.Proofs.Simulator.Motion

/-! What a simulator tells its station in the course of steps, runs and resets, told from its motion alone. It
is the same whether a diary is kept in the ledger or by the sinks, and whatever the observers make of it. -/
namespace Flotation
open Flotation.Action Station
variable {α : Type} [Scalar α]

namespace Simulator

/-- The simulator in another motion. -/
def withMotion (s : Simulator α) (m : Motion α) : Simulator α := { s with scene := m.scene, time := m.time }

/-- What a run logs first. -/
def runningEntry (context : Context) (s : Simulator α) : Entry :=
  ⟨.info, Scalar.toFloat s.time, runningText s.ticksLeft s.setup.tickLength, context⟩

/-- What a run logs last. -/
def completeEntry (context : Context) (s : Simulator α) : Entry :=
  ⟨.info, Scalar.toFloat s.time, s.completeText, context⟩

/-- It depends on the motion alone. -/
theorem completeEntry_withMotion {s : Simulator α} {m : Motion α} (h : s.motion = m) (context : Context)
    (other : Simulator α) : s.completeEntry context = (other.withMotion m).completeEntry context := by
  subst h
  rfl

def resetEntry (context : Context) (s : Simulator α) : Entry :=
  ⟨.info, Scalar.toFloat s.setup.start, "Simulator reset", context⟩

/-- What a run logs if nobody observes its ticks. -/
def runEntries (context : Context) (s : Simulator α) : List Entry :=
  let lengths := List.replicate s.ticksLeft s.setup.tickLength
  s.runningEntry context :: (s.motion.entries context lengths ++
    [(s.withMotion (lengths.foldl Motion.stepped s.motion)).completeEntry context])

end Simulator

namespace Rig
variable {P : List Entry → Station → Prop} {written : List Entry} {rig : Rig α} {β : Type}

/-- The diary has been kept up to the given entries, and the motion is the given one. It is only for
observers to complain. -/
structure Tells (P : List Entry → Station → Prop) (written : List Entry) (m : Motion α) (rig : Rig α)
    (result : Outcome β × Rig α) : Prop where
  motion_eq : result.2.simulator.motion = m
  setup_eq : result.2.simulator.setup = rig.simulator.setup
  keeping : Keeping P written rig.station result.2.station
  not_aborted : result.1 ≠ .aborted
  calm : rig.simulator.observers = [] → result.1.calm = true ∧ result.2.simulator.observers = []

theorem Tells.refl (h : P written rig.station) (b : β) :
    Tells P written rig.simulator.motion rig (.returned b, rig) :=
  ⟨rfl, rfl, .refl h, by simp, fun ho => ⟨rfl, ho⟩⟩

theorem Tells.bind_pure {γ : Type} {m : Motion α} {x : Action (Rig α) β} (h : Tells P written m rig (x.run rig))
    (f : β → γ) : Tells P written m rig ((x >>= fun b => pure (f b)).run rig) := by
  rw [run_bind]
  rcases hr : x.run rig with ⟨b | failure | _, after⟩ <;> rw [hr] at h
  · exact ⟨h.motion_eq, h.setup_eq, h.keeping, by simp, fun ho => ⟨rfl, (h.calm ho).2⟩⟩
  · refine ⟨h.motion_eq, h.setup_eq, h.keeping, by simp, fun ho => ⟨?_, (h.calm ho).2⟩⟩
    exact (Outcome.calm_raised failure).trans (h.calm ho).1
  · exact absurd rfl h.not_aborted

theorem log_tells (rig : Rig α) (hP : Diary P) (h : P written rig.station) (level : Level) (message : String) :
    ∃ st, (log level message).run rig = (.returned (), { rig with station := st }) ∧
      Keeping P (written ++ [⟨level, Scalar.toFloat rig.simulator.time, message, rig.station.context⟩])
        rig.station st := by
  obtain ⟨st, hr, hk⟩ := hP.log h level (Scalar.toFloat rig.simulator.time) message
  refine ⟨st, ?_, hk⟩
  rw [log, run_bind_returned (run_read _ rig), atStation, run_onPart, hr]

theorem announce_tells (hP : Diary P) (h : P written rig.station) {before : Motion α} {tick : Tick α}
    (ht : tick.submerged = before.submerged) (hc : rig.station.context = Simulator.tickContext) :
    ∃ st, (announce tick).run rig = (.returned (), { rig with station := st }) ∧
      Keeping P (written ++ (Motion.crossing? (before, rig.simulator.motion)).toList) rig.station st := by
  rw [announce, run_bind_returned (run_read _ rig), ht, Motion.crossing?]
  change ∃ st, (if rig.simulator.motion.submerged ≠ before.submerged then
    log .event (Motion.waterText rig.simulator.motion.submerged) else pure ()).run rig = _ ∧ _
  split
  · obtain ⟨st, hr, hk⟩ := log_tells rig hP h .event (Motion.waterText rig.simulator.motion.submerged)
    rw [hc] at hk
    exact ⟨st, hr, hk⟩
  · refine ⟨rig.station, rfl, .refl ?_⟩
    rw [Option.toList_none, List.append_nil]
    exact h

theorem logHeight_tells (rig : Rig α) (hP : Diary P) (h : P written rig.station)
    (hc : rig.station.context = Simulator.tickContext) :
    ∃ st, (logHeight rig.simulator.height).run rig = (.returned (), { rig with station := st }) ∧
      Keeping P (written ++ [rig.simulator.motion.heightEntry]) rig.station st := by
  rw [logHeight, run_bind_returned (run_read _ rig)]
  cases ha : rig.station.service.accepts .debug with
  | true =>
    obtain ⟨st, hr, hk⟩ := log_tells rig hP h .debug
      ("height=" ++ Decimal.fixed 6 (Scalar.toFloat rig.simulator.height))
    rw [hc] at hk
    exact ⟨st, hr, hk⟩
  | false => exact ⟨rig.station, rfl, .refl (hP.dropped h ha)⟩

theorem observe_noted (hP : Diary P) (height : α) (observers : List (HeightSink α)) {st : Station}
    (h : P written st) : P written { st with outlets := (observe height observers st.outlets).outlets } := by
  induction observers generalizing st with
  | nil => exact h
  | cons sink rest ih =>
    rw [observe]
    split
    · exact h
    · exact ih (hP.noted h (sink.handed height).tag (Scalar.toFloat height))

theorem emit_tells (rig : Rig α) (hP : Diary P) (h : P written rig.station) (height : α) :
    Tells P written rig.simulator.motion rig ((emit height).run rig) := by
  have hk : Keeping P written rig.station
      (rig.observed (observe height rig.simulator.observers rig.station.outlets)).station :=
    ⟨observe_noted hP height _ h, rfl, rfl⟩
  have hn : rig.simulator.observers = [] →
      (observe height rig.simulator.observers rig.station.outlets).complaint = none ∧
        (observe height rig.simulator.observers rig.station.outlets).observers = [] := by
    intro ho
    rw [ho]
    exact ⟨rfl, rfl⟩
  simp only [emit]
  cases hc : (observe height rig.simulator.observers rig.station.outlets).complaint with
  | none => exact ⟨rfl, rfl, hk, by simp, fun ho => ⟨rfl, (hn ho).2⟩⟩
  | some reason => exact ⟨rfl, rfl, hk, by simp, fun ho => by rw [(hn ho).1] at hc; cases hc⟩

/-- An action at a station where the diary has already gone on. -/
theorem Tells.after {first later : List Entry} {m : Motion α} {st : Station} {result : Outcome β × Rig α}
    (hk : Keeping P first rig.station st) (h : Tells P later m { rig with station := st } result) :
    Tells P later m rig result :=
  ⟨h.motion_eq, h.setup_eq, hk.trans h.keeping, h.not_aborted, h.calm⟩

theorem tell_tells (rig : Rig α) (hP : Diary P) (h : P written rig.station) {before : Motion α} {tick : Tick α}
    (ht : tick.submerged = before.submerged) (hh : tick.height = rig.simulator.height)
    (hc : rig.station.context = Simulator.tickContext) :
    Tells P (written ++ ((Motion.crossing? (before, rig.simulator.motion)).toList ++
        [rig.simulator.motion.heightEntry]))
      rig.simulator.motion rig ((tell tick).run rig) := by
  obtain ⟨st, hr, hk⟩ := announce_tells hP h ht hc
  obtain ⟨st', hr', hk'⟩ := logHeight_tells { rig with station := st } hP hk.diary
    (hk.context_eq.trans hc)
  rw [tell, run_bind_returned hr, hh, run_bind_returned hr', ← List.append_assoc]
  exact .after (hk.trans hk') (emit_tells { rig with station := st' } hP hk'.diary _)

theorem take_tells (rig : Rig α) (hP : Diary P) (h : P written rig.station) (elapsed : α)
    (hc : rig.station.context = Simulator.tickContext) :
    Tells P (written ++ ((Motion.crossing? (rig.simulator.motion, rig.simulator.motion.ticked elapsed)).toList ++
        [(rig.simulator.motion.ticked elapsed).heightEntry]))
      (rig.simulator.motion.ticked elapsed) rig ((take elapsed).run rig) := by
  have ht : (rig.simulator.scene.tick elapsed).submerged = rig.simulator.motion.submerged := by
    rw [Tick.submerged, Scene.tick_ratio]
    rfl
  obtain ⟨hm, hs, hk, ha, hcalm⟩ :=
    tell_tells { rig with simulator := rig.simulator.ticked elapsed } hP h ht rfl hc
  exact ⟨hm, hs, hk, ha, hcalm⟩

/-- A context comes and goes without a trace but in the entries of the body. -/
theorem within_tells (hP : Diary P) {context : Context} {body : Action (Rig α) Unit} {m : Motion α}
    (hb : Tells P written m { rig with station := { rig.station with context } }
      (body.run { rig with station := { rig.station with context } })) :
    Tells P written m rig ((within context body).run rig) := by
  obtain ⟨ho, hs⟩ := run_within context hb.not_aborted
  refine ⟨?_, ?_, ?_, ?_, ?_⟩
  · rw [hs]
    exact hb.motion_eq
  · rw [hs]
    exact hb.setup_eq
  · rw [hs]
    exact ⟨hP.under hb.keeping.diary _, rfl, hb.keeping.buffering_eq⟩
  · rw [ho]
    exact hb.not_aborted
  · rw [ho, hs]
    exact hb.calm

theorem reject_tells (hP : Diary P) (h : P written rig.station) (problem : TickProblem) (elapsed : α) :
    Tells P (written ++ [rig.simulator.motion.rejection rig.station.context problem elapsed])
      rig.simulator.motion rig ((reject problem elapsed).run rig) := by
  have hn : Simulator.component.isEmpty = false := by decide
  obtain ⟨st, hr, hk⟩ := hP.reject (β := Unit) h (.tick problem
    (some ⟨Scalar.toFloat rig.simulator.time, Scalar.toFloat elapsed⟩)) (Scalar.toFloat rig.simulator.time) hn
  rw [reject, run_bind_returned (run_read _ rig), atStation, run_onPart, hr]
  exact ⟨rfl, rfl, hk, by simp, fun ho => ⟨rfl, ho⟩⟩

theorem step_eq (elapsed : α) :
    step elapsed =
      match tickProblem? elapsed with
      | none => within Simulator.tickContext (take elapsed)
      | some problem => reject problem elapsed := by
  rw [step, tickProblem?]
  split_ifs <;> rfl

theorem step_tells (hP : Diary P) (h : P written rig.station) (elapsed : α) :
    Tells P (written ++ rig.simulator.motion.stepEntries rig.station.context elapsed)
      (rig.simulator.motion.stepped elapsed) rig ((step elapsed).run rig) := by
  rw [step_eq, Motion.stepEntries, Motion.stepped]
  cases tickProblem? elapsed with
  | none => exact within_tells hP (take_tells { rig with station := _ } hP (hP.under h _) elapsed rfl)
  | some problem => exact reject_tells hP h problem elapsed

/-- Only observers can keep a tick that can be taken from being reported. -/
theorem faultless_step {elapsed : α} (h : tickProblem? elapsed = none) : Faultless (step elapsed) := by
  have henter : Faultless (Station.enter Simulator.tickContext) :=
    .bind (.read _) fun _ => .bind (.update _) fun _ => .pure _
  have htake : Faultless (take elapsed) :=
    .bind (.read _) fun _ => .bind (.update _) fun _ => faultless_tell _
  rw [step_eq, h]
  exact .bind henter.onPart fun _ => htake.closing

theorem stepDeeds_eq (elapsed : α) : stepDeeds elapsed = (Motion.takable [elapsed]).map .tick := by
  rw [Motion.takable_cons]
  cases h : tickProblem? elapsed with
  | none => exact if_neg (tickProblem?_eq_none.mp h)
  | some problem =>
    have hp : ¬ Scalar.isFinite elapsed ∨ elapsed < 0.0 := by
      by_contra hn
      rw [tickProblem?_eq_none.mpr hn] at h
      cases h
    exact if_pos hp

/-- A series of steps is told up to the first that raises. -/
theorem series_tells (rig : Rig α) (hP : Diary P) (h : P written rig.station) (elapsed : α) (n : Nat) :
    ∃ k, Tells P (written ++ rig.simulator.motion.entries rig.station.context (List.replicate k elapsed))
        ((List.replicate k elapsed).foldl Motion.stepped rig.simulator.motion) rig
        ((Action.times (step elapsed) n).run rig) ∧
      seriesDeeds elapsed n rig = (Motion.takable (List.replicate k elapsed)).map .tick ∧
      (rig.simulator.observers = [] → tickProblem? elapsed = none →
        k = n ∧ ((Action.times (step elapsed) n).run rig).1 = .returned ()) := by
  induction n generalizing rig written with
  | zero =>
    refine ⟨0, ?_, rfl, fun _ _ => ⟨rfl, rfl⟩⟩
    rw [List.replicate_zero, Motion.entries, List.append_nil]
    exact .refl h ()
  | succ n ih =>
    have hs := step_tells hP h elapsed
    have hd := stepDeeds_eq elapsed
    rw [Action.times, seriesDeeds]
    rcases hr : (step elapsed).run rig with ⟨_ | failure | _, next⟩ <;> rw [hr] at hs
    · obtain ⟨hm, hsetup, hk, -, hcalm⟩ := hs
      obtain ⟨k, ⟨hm', hsetup', hk', ha', hcalm'⟩, hdeeds, hall⟩ := ih next hk.diary
      rw [hm] at hm' hk'
      rw [hk.context_eq] at hk'
      rw [run_bind_returned hr]
      refine ⟨k + 1, ⟨?_, hsetup'.trans hsetup, ?_, ha', fun ho => hcalm' (hcalm ho).2⟩, ?_, fun ho hp => ?_⟩
      · rw [List.replicate_succ, List.foldl_cons]
        exact hm'
      · rw [List.replicate_succ, Motion.entries, ← List.append_assoc]
        exact hk.trans hk'
      · dsimp only
        rw [hd, hdeeds, ← List.map_append, List.replicate_succ]
        exact congrArg _ (List.filter_append [elapsed] _).symm
      · obtain ⟨rfl, hret⟩ := hall (hcalm ho).2 hp
        exact ⟨rfl, hret⟩
    · rw [run_bind_raised hr]
      refine ⟨1, ?_, ?_, fun ho hp => ?_⟩
      · rw [List.replicate_one, Motion.entries, Motion.entries, List.append_nil]
        exact hs
      · rw [hd, List.append_nil]
        rfl
      · obtain ⟨_, hret⟩ := faultless_step hp rig (by rw [hr]; exact (hs.calm ho).1)
        rw [hr] at hret
        cases hret
    · exact absurd rfl hs.not_aborted

/-- Holding the log makes no difference to what is told. -/
theorem buffered_tells (rig : Rig α) (hP : Diary P) {body : Action (Rig α) Unit} {m : Motion α}
    (hb : Tells P written m rig.holding (body.run rig.holding)) :
    Tells P written m rig ((buffered body).run rig) ∧
      ((buffered body).run rig).1 = (body.run rig.holding).1 := by
  obtain ⟨st, hr, hp, hc, hbuf⟩ := hP.closeScope hb.keeping.diary rig.station.service.buffering
  have hclose : (atStation (Station.closeScope rig.station.service.buffering)).run (body.run rig.holding).2 =
      (.returned (), { (body.run rig.holding).2 with station := st }) := by
    rw [atStation, run_onPart, hr]
  have he : (buffered body).run rig = _ := closing_run hb.not_aborted hclose
  rw [he]
  exact ⟨⟨hb.motion_eq, hb.setup_eq, ⟨hp, hc.trans hb.keeping.context_eq, hbuf⟩, hb.not_aborted, hb.calm⟩,
    rfl⟩

theorem buffered_series_tells (rig : Rig α) (hP : Diary P) (h : P written rig.station) (elapsed : α) (n : Nat) :
    ∃ k, Tells P (written ++ rig.simulator.motion.entries rig.station.context (List.replicate k elapsed))
        ((List.replicate k elapsed).foldl Motion.stepped rig.simulator.motion) rig
        ((buffered (.times (step elapsed) n)).run rig) ∧
      seriesDeeds elapsed n rig.holding = (Motion.takable (List.replicate k elapsed)).map .tick ∧
      (rig.simulator.observers = [] → tickProblem? elapsed = none →
        k = n ∧ ((buffered (.times (step elapsed) n)).run rig).1 = .returned ()) := by
  obtain ⟨k, hs, hd, hall⟩ := series_tells rig.holding hP (hP.opens h) elapsed n
  obtain ⟨hb, hbo⟩ := buffered_tells rig hP hs
  exact ⟨k, hb, hd, fun ho hp => ⟨(hall ho hp).1, hbo.trans (hall ho hp).2⟩⟩

/-- A run logs its last entry if nothing before it has raised. -/
theorem completed_tells (hP : Diary P) {body : Action (Rig α) Unit} {m : Motion α}
    (hb : Tells P written m rig (body.run rig)) (n : Nat) :
    let completed := body >>= fun _ => do
      let done ← Action.read Rig.simulator
      log .info done.completeText
      return n
    ∃ last, Tells P (written ++ last) m rig (completed.run rig) ∧
      (last = [] ∨ last = [(rig.simulator.withMotion m).completeEntry rig.station.context]) ∧
      ((body.run rig).1 = .returned () → last ≠ [] ∧ (completed.run rig).1 = .returned n) := by
  dsimp only
  rcases hr : body.run rig with ⟨_ | failure | _, done⟩ <;> rw [hr] at hb
  · obtain ⟨st, hlog, hk⟩ := log_tells done hP hb.keeping.diary .info done.simulator.completeText
    have hlast := Simulator.completeEntry_withMotion hb.motion_eq rig.station.context rig.simulator
    rw [hb.keeping.context_eq] at hk
    rw [run_bind_returned hr, run_bind_returned (run_read _ done), run_bind_returned hlog]
    refine ⟨[_], ⟨hb.motion_eq, hb.setup_eq, hb.keeping.trans hk, by simp, fun ho => ⟨rfl, (hb.calm ho).2⟩⟩,
      .inr (congrArg (fun e => [e]) hlast), fun _ => ⟨by simp, rfl⟩⟩
  · rw [run_bind_raised hr]
    refine ⟨[], ?_, .inl rfl, nofun⟩
    rw [List.append_nil]
    refine ⟨hb.motion_eq, hb.setup_eq, hb.keeping, by simp, fun ho => ⟨?_, (hb.calm ho).2⟩⟩
    exact (Outcome.calm_raised failure).trans (hb.calm ho).1
  · exact absurd rfl hb.not_aborted

theorem run_idle (h : ¬ rig.simulator.hasTimeLeft = true) : run.run rig = (.returned 0, rig) := by
  rw [run, run_bind_returned (run_read _ rig), if_neg h]
  rfl

/-- A run is told by its first entry, those of its steps up to the first that raises, and its last entry if
none of them did. -/
theorem run_tells (hP : Diary P) (h : P written rig.station) (hl : rig.simulator.hasTimeLeft = true) :
    ∃ k last,
      Tells P (written ++ (rig.simulator.runningEntry rig.station.context ::
          (rig.simulator.motion.entries rig.station.context
            (List.replicate k rig.simulator.setup.tickLength) ++ last)))
        ((List.replicate k rig.simulator.setup.tickLength).foldl Motion.stepped rig.simulator.motion) rig
        (run.run rig) ∧
      (last = [] ∨ last = [(rig.simulator.withMotion ((List.replicate k rig.simulator.setup.tickLength).foldl
        Motion.stepped rig.simulator.motion)).completeEntry rig.station.context]) ∧
      rig.runDeeds = (Motion.takable (List.replicate k rig.simulator.setup.tickLength)).map .tick ∧
      (rig.simulator.observers = [] → tickProblem? rig.simulator.setup.tickLength = none →
        k = rig.simulator.ticksLeft ∧ last ≠ [] ∧
          (run.run rig).1 = .returned rig.simulator.ticksLeft) := by
  obtain ⟨st, hr, hk⟩ := log_tells rig hP h .info
    (Simulator.runningText rig.simulator.ticksLeft rig.simulator.setup.tickLength)
  obtain ⟨k, hs, hd, hall⟩ := buffered_series_tells { rig with station := st } hP hk.diary
    rig.simulator.setup.tickLength rig.simulator.ticksLeft
  obtain ⟨last, ht, hlast, hreturned⟩ := completed_tells hP hs rig.simulator.ticksLeft
  rw [hk.context_eq, List.append_assoc, List.append_assoc] at ht
  rw [hk.context_eq] at hlast
  rw [run, run_bind_returned (run_read _ rig), if_pos hl, run_bind_returned hr, runDeeds, if_pos hl, hr]
  refine ⟨k, last, .after hk ht, hlast, hd, fun ho hp => ?_⟩
  obtain ⟨hall, hr⟩ := hall ho hp
  exact ⟨hall, hreturned hr⟩

/-- Without observers every entry of a run is told. -/
theorem run_tells_all (hP : Diary P) (h : P written rig.station) (hl : rig.simulator.hasTimeLeft = true)
    (ho : rig.simulator.observers = []) (hp : tickProblem? rig.simulator.setup.tickLength = none) :
    ∃ m, Tells P (written ++ rig.simulator.runEntries rig.station.context) m rig (run.run rig) := by
  obtain ⟨k, last, ht, hlast, -, hall⟩ := run_tells hP h hl
  obtain ⟨rfl, hne, -⟩ := hall ho hp
  rw [hlast.resolve_left hne] at ht
  exact ⟨_, ht⟩

theorem reset_tells (hP : Diary P) (h : P written rig.station) {scene : Scene α}
    (hb : rig.simulator.setup.build = .ok scene) :
    Tells P (written ++ [rig.simulator.resetEntry rig.station.context])
        ⟨scene, rig.simulator.setup.start⟩ rig (reset.run rig) ∧ (reset.run rig).1 = .returned () := by
  let fresh : Rig α := { rig with simulator := { rig.simulator with
    scene, time := rig.simulator.setup.start, ticks := 0, latest := none } }
  have he : reset.run rig = (log .info "Simulator reset").run fresh := by
    rw [reset, run_bind_returned (run_read _ rig), hb]
    rfl
  obtain ⟨st, hr, hk⟩ := log_tells fresh hP h .info "Simulator reset"
  rw [he, hr]
  exact ⟨⟨rfl, rfl, hk, by simp, fun ho => ⟨rfl, ho⟩⟩, rfl⟩

end Rig
end Flotation
