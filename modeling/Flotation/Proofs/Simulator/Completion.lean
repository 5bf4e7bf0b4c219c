import Flotation.Proofs.Scene.Exact
import Flotation.Proofs.Simulator.Restart
import Flotation.Proofs.Simulator.Telling

/-! Completion: if nobody refuses anything, a run takes all the ticks that fit into the time left, provided that they
can be counted, and another run finds nothing more to do. Times are rationals here, so the tolerance of a run is
exact. -/
namespace Flotation
open Flotation.Action
variable {α : Type} [Scalar α]

/-- The observer never refuses a height. -/
def HeightSink.Compliant (s : HeightSink α) : Prop := ∀ seen, s.refusal seen = none

namespace Rig

/-- Neither a sink of the log nor an observer ever refuses anything. -/
structure Unopposed (rig : Rig α) : Prop where
  log : rig.station.service.Compliant
  observers : ∀ sink ∈ rig.simulator.observers, sink.Compliant

/-- Unless somebody refuses something, the action returns. -/
def Smooth {β : Type} (x : Action (Rig α) β) : Prop :=
  ∀ rig : Rig α, rig.Unopposed → ∃ b rig', x.run rig = (.returned b, rig') ∧ rig'.Unopposed

namespace Smooth
variable {β γ : Type}

theorem pure (b : β) : Smooth (Pure.pure b : Action (Rig α) β) := fun rig h => ⟨b, rig, rfl, h⟩

theorem read (f : Rig α → β) : Smooth (Action.read f) := fun rig h => ⟨f rig, rig, rfl, h⟩

theorem bind {x : Action (Rig α) β} {f : β → Action (Rig α) γ} (hx : Smooth x) (hf : ∀ b, Smooth (f b)) :
    Smooth (x >>= f) := by
  intro rig h
  obtain ⟨b, next, hr, hn⟩ := hx rig h
  rw [run_bind_returned hr]
  exact hf b next hn

theorem times {x : Action (Rig α) Unit} (hx : Smooth x) (n : Nat) : Smooth (Action.times x n) := by
  induction n with
  | zero => exact pure ()
  | succ n ih => exact hx.bind fun _ => ih

end Smooth

theorem smooth_log (level : Level) (message : String) : Smooth (log level message : Action (Rig α) Unit) := by
  intro rig h
  obtain ⟨st, hr, hs⟩ := Station.logEntry_compliant h.log
    ⟨level, Scalar.toFloat rig.simulator.time, message, rig.station.context⟩
  refine ⟨(), { rig with station := st }, ?_, ?_, h.observers⟩
  · exact congrArg (fun result => (result.1, { rig with station := result.2 })) hr
  · rw [hs.service_eq]
    exact h.log.logged _

theorem smooth_announce (tick : Tick α) : Smooth (announce tick) := by
  refine .bind (.read _) fun s => ?_
  split
  · exact smooth_log _ _
  · exact .pure ()

theorem smooth_logHeight (height : α) : Smooth (logHeight height) := by
  refine .bind (.read _) fun st => ?_
  split
  · exact smooth_log _ _
  · exact .pure ()

theorem observe_compliant (height : α) {observers : List (HeightSink α)}
    (h : ∀ sink ∈ observers, sink.Compliant) (outlets : Outlets) :
    (observe height observers outlets).complaint = none ∧
      (observe height observers outlets).observers = observers.map (·.handed height) := by
  induction observers generalizing outlets with
  | nil => exact ⟨rfl, rfl⟩
  | cons sink rest ih =>
    obtain ⟨hs, hr⟩ := List.forall_mem_cons.mp h
    have hn : (sink.handed height).complaint = none := hs _
    obtain ⟨hc, ho⟩ := ih hr (outlets.noteHeight sink.tag (Scalar.toFloat height))
    simp only [observe, hn]
    exact ⟨hc, congrArg (sink.handed height :: ·) ho⟩

theorem smooth_emit (height : α) : Smooth (emit height) := by
  intro rig h
  obtain ⟨hc, ho⟩ := observe_compliant height h.observers rig.station.outlets
  refine ⟨(), rig.observed (observe height rig.simulator.observers rig.station.outlets), ?_, h.log, ?_⟩
  · simp only [emit, hc]
  · intro sink hm
    change sink ∈ (observe height rig.simulator.observers rig.station.outlets).observers at hm
    rw [ho] at hm
    obtain ⟨before, hb, rfl⟩ := List.mem_map.mp hm
    exact h.observers before hb

theorem smooth_take (elapsed : α) : Smooth (take elapsed) := by
  refine .bind (.read _) fun s => .bind (fun rig h => ⟨(), _, rfl, h.log, h.observers⟩) fun _ => ?_
  exact .bind (smooth_announce _) fun _ => .bind (smooth_logHeight _) fun _ => smooth_emit _

theorem smooth_step {elapsed : α} (h : tickProblem? elapsed = none) : Smooth (step elapsed) := by
  intro rig hu
  let begun : Rig α := { rig with station := { rig.station with context := Simulator.tickContext } }
  obtain ⟨_, after, hr, ha⟩ := smooth_take elapsed begun ⟨hu.log, hu.observers⟩
  have hn : ((take elapsed).run begun).1 ≠ .aborted := by simp [hr]
  have hw := run_within Simulator.tickContext hn
  rw [hr] at hw
  rw [step_eq, h]
  exact ⟨(), { after with station := { after.station with context := rig.station.context } },
    Prod.ext hw.1 hw.2, ha.log, ha.observers⟩

/-- In a scope the log is held until the end of the body, and then nobody refuses it either. -/
theorem smooth_buffered {body : Action (Rig α) Unit} (hb : Smooth body) : Smooth (buffered body) := by
  intro rig h
  obtain ⟨_, done, hr, hd⟩ := hb rig.holding ⟨h.log, h.observers⟩
  obtain ⟨st, hc, hs⟩ := Station.closeScope_compliant hd.log rig.station.service.buffering
  have hclose : (atStation (Station.closeScope rig.station.service.buffering)).run done =
      (.returned (), { done with station := st }) := by
    rw [atStation, run_onPart, hc]
  refine ⟨(), { done with station := st }, closing_returned hr hclose, ?_, hd.observers⟩
  rw [hs.service_eq]
  exact hd.log.distribute _

/-- So many ticks are committed one after the other. -/
theorem series_commits {elapsed : α} (h : tickProblem? elapsed = none) (n : Nat) {rig : Rig α}
    (hu : rig.Unopposed) :
    ((Action.times (step elapsed) n).run rig).2.simulator.unobserved =
      (fun s => s.ticked elapsed)^[n] rig.simulator.unobserved := by
  induction n generalizing rig with
  | zero => rfl
  | succ n ih =>
    obtain ⟨hf, hn⟩ := not_or.mp (tickProblem?_eq_none.mp h)
    have hc := congrArg Prod.fst (step_commits (not_not.mp hf) hn rig).2
    obtain ⟨_, next, hr, hnext⟩ := smooth_step h rig hu
    rw [hr] at hc
    rw [Action.times, run_bind_returned hr, ih hnext, Function.iterate_succ_apply]
    exact congrArg _ hc

/-- A run does to the simulator what the series of its ticks does, and it reports how many there are. -/
theorem run_takes_series {rig : Rig α} (hu : rig.Unopposed) (hl : rig.simulator.hasTimeLeft = true)
    (ht : tickProblem? rig.simulator.setup.tickLength = none) :
    ∃ begun rig' : Rig α, begun.Unopposed ∧ begun.simulator = rig.simulator ∧
      run.run rig = (.returned rig.simulator.ticksLeft, rig') ∧ rig'.Unopposed ∧
      rig'.simulator =
        ((Action.times (step rig.simulator.setup.tickLength) rig.simulator.ticksLeft).run begun).2.simulator := by
  let series := Action.times (step rig.simulator.setup.tickLength) rig.simulator.ticksLeft
  obtain ⟨_, begun, hfirst, hbegun⟩ := smooth_log .info
    (Simulator.runningText rig.simulator.ticksLeft rig.simulator.setup.tickLength) rig hu
  obtain ⟨_, done, hseries, hdone⟩ := smooth_buffered ((smooth_step ht).times _) begun hbegun
  obtain ⟨_, last, hlast, hunopposed⟩ := smooth_log .info done.simulator.completeText done hdone
  have hs := log_simulator .info
    (Simulator.runningText rig.simulator.ticksLeft rig.simulator.setup.tickLength) rig
  have hd := buffered_simulator series begun
  have he := log_simulator .info done.simulator.completeText done
  rw [hfirst] at hs
  rw [hseries] at hd
  rw [hlast] at he
  refine ⟨begun.holding, last, ⟨hbegun.log, hbegun.observers⟩, hs, ?_, hunopposed, he.trans hd⟩
  rw [run, run_bind_returned (run_read _ rig), if_pos hl, run_bind_returned hfirst, run_bind_returned hseries,
    run_bind_returned (run_read _ done), run_bind_returned hlast]
  rfl

end Rig

namespace Simulator

/-- No tick that counts is left. -/
def Finished (s : Simulator α) : Prop :=
  tickProblem? s.setup.tickLength = none ∧ (s.hasTimeLeft = true → s.ticksLeft = 0)

end Simulator

namespace Rig

/-- A run with no such tick left returns at once or after it has logged as much. -/
theorem run_finished {rig : Rig α} (hu : rig.Unopposed) (hf : rig.simulator.Finished) :
    ∃ rig', run.run rig = (.returned 0, rig') ∧ rig'.Unopposed ∧ rig'.simulator = rig.simulator := by
  by_cases hl : rig.simulator.hasTimeLeft = true
  · obtain ⟨begun, rig', -, hb, hr, hu', hs⟩ := run_takes_series hu hl hf.1
    rw [hf.2 hl] at hr hs
    exact ⟨rig', hr, hu', hs.trans hb⟩
  · exact ⟨rig, run_idle hl, hu, rfl⟩

end Rig

/-- Another run, or anything at the station that does not bring a sink that refuses. -/
def Call.Reruns (call : Call α) : Prop :=
  call = .run ∨ ∃ change, call = .meanwhile change ∧ Friendly (α := α) (.meanwhile change)

namespace Rig

/-- However often it is repeated, a run leaves a finished simulator as it is. -/
theorem after_finished {rig : Rig α} (hu : rig.Unopposed) (hf : rig.simulator.Finished) {calls : List (Call α)}
    (hc : ∀ call ∈ calls, call.Reruns) :
    ∃ rig', rig.after calls = some rig' ∧ rig'.Unopposed ∧ rig'.simulator = rig.simulator := by
  induction calls generalizing rig with
  | nil => exact ⟨rig, rfl, hu, rfl⟩
  | cons call rest ih =>
    obtain ⟨hcall, hrest⟩ := List.forall_mem_cons.mp hc
    rcases hcall with rfl | ⟨change, rfl, hfriendly⟩
    · obtain ⟨next, hr, hu', hs⟩ := run_finished hu hf
      have ha : (answer .run).run rig = (.returned (), next) := run_bind_returned hr _
      obtain ⟨rig', hafter, hlast⟩ := ih hu' (hs ▸ hf) hrest
      refine ⟨rig', ?_, hlast.1, hlast.2.trans hs⟩
      rw [after_cons (by simp [ha]), ha]
      exact hafter
    · let next : Rig α := { rig with station := change rig.station }
      have hu' : next.Unopposed := ⟨hfriendly _ hu.log, hu.observers⟩
      obtain ⟨rig', hafter, hlast⟩ := ih hu' hf hrest
      exact ⟨rig', (after_cons (by simp [answer]) rest).trans hafter, hlast⟩

end Rig

namespace Simulator
variable {s : Simulator Rat}

theorem hasTimeLeft_iff : s.hasTimeLeft = true ↔ s.time < s.setup.finish := by
  have hz : (0.0 : Rat) = 0 := by norm_num
  have hf : Scalar.isFinite s.remaining = true := rfl
  rw [hasTimeLeft, hf, Bool.true_and, Bool.not_eq_true', decide_eq_false_iff_not, remaining, hz, not_le, sub_pos]

theorem tickQuotient_eq (s : Simulator Rat) :
    s.tickQuotient = (s.setup.finish - s.time) / s.setup.tickLength + 10 ^ (-9 : Int) := by
  rw [tickQuotient, remaining]
  norm_num

/-- So many ticks are left, be they too many to be counted, as end within a tolerance of the end time. -/
theorem le_floor_tickQuotient_iff (ht : 0 < s.setup.tickLength) (hl : s.time < s.setup.finish) {n : Nat} :
    n ≤ s.tickQuotient.floor.toNat ↔
      s.time + n * s.setup.tickLength ≤ s.setup.finish + 10 ^ (-9 : Int) * s.setup.tickLength := by
  have hnonneg : 0 ≤ s.tickQuotient := by
    have hr := div_pos (sub_pos.mpr hl) ht
    rw [tickQuotient_eq]
    positivity
  have hfloor : 0 ≤ s.tickQuotient.floor := Rat.le_floor_iff.mpr (by exact_mod_cast hnonneg)
  rw [Int.le_toNat hfloor, Rat.le_floor_iff, Int.cast_natCast, tickQuotient_eq, ← sub_le_iff_le_add, le_div_iff₀ ht,
    sub_mul]
  constructor <;> intro h <;> linarith

/-- There are fewer ticks to the end, the tolerance taken into account, than a count of 64 bits can come to. -/
def Countable (s : Simulator Rat) : Prop :=
  s.setup.finish + 10 ^ (-9 : Int) * s.setup.tickLength < s.time + 2 ^ 64 * s.setup.tickLength

theorem le_ticksLeft_iff (ht : 0 < s.setup.tickLength) (hl : s.time < s.setup.finish) (hc : s.Countable) {n : Nat} :
    n ≤ s.ticksLeft ↔
      s.time + n * s.setup.tickLength ≤ s.setup.finish + 10 ^ (-9 : Int) * s.setup.tickLength := by
  have hn : s.tickQuotient.floor.toNat < 1 <<< 64 := by
    rw [Nat.one_shiftLeft, ← not_le, le_floor_tickQuotient_iff ht hl, not_le]
    exact_mod_cast hc
  have he : s.ticksLeft = s.tickQuotient.floor.toNat := if_pos hn
  rw [he, le_floor_tickQuotient_iff ht hl]

theorem tickProblem?_of_pos {elapsed : Rat} (h : 0 < elapsed) : tickProblem? elapsed = none := by
  have hz : (0.0 : Rat) = 0 := by norm_num
  refine tickProblem?_eq_none.mpr ?_
  rintro (hf | hn)
  · exact hf rfl
  · rw [hz] at hn
    exact lt_asymm h hn

/-- Less than a tick is left, the tolerance taken into account. -/
theorem finished_of_lt (ht : 0 < s.setup.tickLength)
    (h : s.setup.finish - (1 - 10 ^ (-9 : Int)) * s.setup.tickLength < s.time) : s.Finished := by
  refine ⟨tickProblem?_of_pos ht, fun hl => ?_⟩
  have hc : s.Countable := by
    rw [Countable]
    linarith
  by_contra hn
  have hone := (le_ticksLeft_iff ht (hasTimeLeft_iff.mp hl) hc).mp (Nat.one_le_iff_ne_zero.mpr hn)
  rw [Nat.cast_one, one_mul] at hone
  linarith

theorem ticks_iterate (s : Simulator α) (elapsed : α) (n : Nat) :
    ((fun s => s.ticked elapsed)^[n] s).ticks = s.ticks + n := by
  induction n generalizing s with
  | zero => rfl
  | succ n ih =>
    rw [Function.iterate_succ_apply, ih]
    exact Nat.add_right_comm s.ticks 1 n

theorem time_iterate (s : Simulator Rat) (elapsed : Rat) (n : Nat) :
    ((fun s => s.ticked elapsed)^[n] s).time = s.time + n * elapsed := by
  induction n generalizing s with
  | zero => simp
  | succ n ih =>
    rw [Function.iterate_succ_apply, ih, ticked]
    push_cast
    ring

theorem setup_iterate (s : Simulator α) (elapsed : α) (n : Nat) :
    ((fun s => s.ticked elapsed)^[n] s).setup = s.setup := by
  induction n generalizing s with
  | zero => rfl
  | succ n ih =>
    rw [Function.iterate_succ_apply, ih]
    rfl

end Simulator

namespace Rig

/-- With time left that has no more ticks than can be counted, and nobody to refuse anything, a run takes as many
ticks as end within the tolerance of the end time, and no more. That is where it leaves the simulator, less than a
tick before the end time or within the tolerance behind it. Any further run takes no tick and leaves the simulator
alone, whatever else goes on at the station in the meantime. -/
theorem run_completes (rig : Rig Rat) (ht : 0 < rig.simulator.setup.tickLength)
    (hl : rig.simulator.time < rig.simulator.setup.finish) (hcount : rig.simulator.Countable)
    (hu : rig.Unopposed) :
    ∃ n rig', run.run rig = (.returned n, rig') ∧
      IsGreatest {k : Nat | rig.simulator.time + k * rig.simulator.setup.tickLength ≤
        rig.simulator.setup.finish + 10 ^ (-9 : Int) * rig.simulator.setup.tickLength} n ∧
      rig'.simulator.unobserved =
        (fun s => s.ticked rig.simulator.setup.tickLength)^[n] rig.simulator.unobserved ∧
      rig'.simulator.ticks = rig.simulator.ticks + n ∧
      rig.simulator.setup.finish - (1 - 10 ^ (-9 : Int)) * rig.simulator.setup.tickLength <
        rig'.simulator.time ∧
      rig'.simulator.time ≤
        rig.simulator.setup.finish + 10 ^ (-9 : Int) * rig.simulator.setup.tickLength ∧
      ∀ later : List (Call Rat), (∀ call ∈ later, call.Reruns) →
        ∃ last final, rig'.after later = some last ∧ run.run last = (.returned 0, final) ∧
          last.simulator = rig'.simulator ∧ final.simulator = rig'.simulator := by
  have hp := Simulator.tickProblem?_of_pos ht
  have hleft := @Simulator.le_ticksLeft_iff rig.simulator ht hl hcount
  obtain ⟨begun, rig', hbegun, hsame, hr, hu', hseries⟩ :=
    run_takes_series hu (Simulator.hasTimeLeft_iff.mpr hl) hp
  have hcommits := series_commits hp rig.simulator.ticksLeft hbegun
  rw [← hseries, hsame] at hcommits
  have hticks := (congrArg Simulator.ticks hcommits).trans (Simulator.ticks_iterate _ _ _)
  have htime : rig'.simulator.time =
      rig.simulator.time + rig.simulator.ticksLeft * rig.simulator.setup.tickLength :=
    (congrArg Simulator.time hcommits).trans (Simulator.time_iterate _ _ _)
  have hsetup : rig'.simulator.setup = rig.simulator.setup :=
    (congrArg Simulator.setup hcommits).trans (Simulator.setup_iterate _ _ _)
  have hlast := hleft.mp le_rfl
  have hnext := mt hleft.mpr (Nat.not_succ_le_self rig.simulator.ticksLeft)
  have hlower : rig.simulator.setup.finish - (1 - 10 ^ (-9 : Int)) * rig.simulator.setup.tickLength <
      rig'.simulator.time := by
    rw [htime]
    push_cast at hnext
    linarith
  have hfinished : rig'.simulator.Finished := by
    refine Simulator.finished_of_lt ?_ ?_
    · rw [hsetup]
      exact ht
    · rw [hsetup]
      exact hlower
  refine ⟨rig.simulator.ticksLeft, rig', hr, ⟨hlast, fun k hk => hleft.mpr hk⟩, hcommits, hticks, hlower, ?_,
    fun later hlater => ?_⟩
  · rw [htime]
    exact hlast
  · obtain ⟨last, hafter, hulast, hslast⟩ := after_finished hu' hfinished hlater
    obtain ⟨final, hfinal, -, hsfinal⟩ := run_finished hulast (hslast ▸ hfinished)
    exact ⟨last, final, hafter, hfinal, hslast, hsfinal.trans hslast⟩

theorem one_isPositive : Scalar.IsPositive (1 : Rat) := by decide +kernel

/-- A simulator of some scene that has not taken a tick of its setup. -/
def fresh (setup : SimulatorSetup Rat) : Simulator Rat where
  setup := setup
  scene :=
    { sphere :=
        { radius := 1, mass := 500, height := 1, velocity := 0
          radius_positive := one_isPositive, mass_positive := by decide +kernel }
      water := .fresh
      gravity := 9.81 }
  time := 0
  ticks := 0
  observers := []
  latest := none
  serial := 0

/-- Two ticks and almost a third, under an observer and a sink. -/
def almostThree : Rig Rat where
  simulator :=
    { fresh { SimulatorSetup.standard with finish := 3 / 100 - 1 / 1000000000000 } with
      observers := [.recording "heights"] }
  station := { service := { slots := [⟨.into (.batches "all"), .trace, []⟩], threshold := .debug } }

/-- The third tick ends behind the end time, but within the tolerance. -/
theorem almost_three_completes :
    0 < almostThree.simulator.setup.tickLength ∧
      almostThree.simulator.time < almostThree.simulator.setup.finish ∧ almostThree.simulator.Countable ∧
      almostThree.Unopposed ∧
      ∃ rig' final, run.run almostThree = (.returned 3, rig') ∧ rig'.simulator.ticks = 3 ∧
        almostThree.simulator.setup.finish < rig'.simulator.time ∧
        run.run rig' = (.returned 0, final) ∧ final.simulator = rig'.simulator := by
  have hd : almostThree.simulator.setup.tickLength = 1 / 100 := by
    change (0.01 : Rat) = _
    norm_num
  have hf : almostThree.simulator.setup.finish = 3 / 100 - 1 / 1000000000000 := rfl
  have hs : almostThree.simulator.time = 0 := rfl
  have ht : 0 < almostThree.simulator.setup.tickLength := by
    rw [hd]
    norm_num
  have hl : almostThree.simulator.time < almostThree.simulator.setup.finish := by
    rw [hf, hs]
    norm_num
  have hcount : almostThree.simulator.Countable := by
    rw [Simulator.Countable, hd, hf, hs]
    norm_num
  have hu : almostThree.Unopposed := by
    constructor
    · intro slot hm received
      rw [List.mem_singleton.mp hm]
      rfl
    · intro sink hm seen
      rw [List.mem_singleton.mp hm]
      rfl
  obtain ⟨n, rig', hr, ⟨hmem, hmax⟩, hc, hticks, -, -, hrerun⟩ := run_completes almostThree ht hl hcount hu
  have hn : n = 3 := by
    apply le_antisymm
    · rw [Set.mem_ofPred_eq, hs, hf, hd] at hmem
      norm_num at hmem
      have hlt : (n : Rat) < (4 : Nat) := by
        push_cast
        linarith
      exact Nat.lt_succ_iff.mp (Nat.cast_lt.mp hlt)
    · apply hmax
      rw [Set.mem_ofPred_eq, hs, hf, hd]
      norm_num
  subst hn
  have htime := (congrArg Simulator.time hc).trans (Simulator.time_iterate _ _ _)
  obtain ⟨last, final, hafter, hfinal, -, hsame⟩ := hrerun [] (List.forall_mem_nil _)
  cases hafter
  refine ⟨ht, hl, hcount, hu, rig', final, hr, hticks, ?_, hfinal, hsame⟩
  change _ < rig'.simulator.unobserved.time
  change rig'.simulator.unobserved.time = almostThree.simulator.time + _ at htime
  rw [htime, hs, hf, hd]
  norm_num

/-- Ticks of a second up to a time that has more seconds than there are counts, and nobody to hear of them. -/
def uncountable : Rig Rat where
  simulator := fresh { SimulatorSetup.standard with finish := 2 ^ 70, tickLength := 1 }
  station := {}

/-- All those ticks would end in time, and the run takes none of them. -/
theorem uncountable_run_takes_none :
    0 < uncountable.simulator.setup.tickLength ∧
      uncountable.simulator.time < uncountable.simulator.setup.finish ∧ uncountable.Unopposed ∧
      IsGreatest {k : Nat | uncountable.simulator.time + k * uncountable.simulator.setup.tickLength ≤
        uncountable.simulator.setup.finish + 10 ^ (-9 : Int) * uncountable.simulator.setup.tickLength} (2 ^ 70) ∧
      ∃ rig', run.run uncountable = (.returned 0, rig') ∧ rig'.simulator = uncountable.simulator := by
  have hd : uncountable.simulator.setup.tickLength = 1 := rfl
  have hf : uncountable.simulator.setup.finish = 2 ^ 70 := rfl
  have hs : uncountable.simulator.time = 0 := rfl
  have hl : uncountable.simulator.time < uncountable.simulator.setup.finish := by
    rw [hs, hf]
    norm_num
  have hu : uncountable.Unopposed := ⟨List.forall_mem_nil _, List.forall_mem_nil _⟩
  have hn : uncountable.simulator.ticksLeft = 0 := by decide +kernel
  have ht : tickProblem? uncountable.simulator.setup.tickLength = none :=
    Simulator.tickProblem?_of_pos (by rw [hd]; norm_num)
  obtain ⟨rig', hr, -, hsame⟩ := run_finished hu ⟨ht, fun _ => hn⟩
  refine ⟨by rw [hd]; norm_num, hl, hu, ⟨?_, fun k hk => ?_⟩, rig', hr, hsame⟩
  · rw [Set.mem_ofPred_eq, hs, hf, hd]
    norm_num
  · rw [Set.mem_ofPred_eq, hs, hf, hd] at hk
    norm_num at hk
    have hlt : (k : Rat) < (2 ^ 70 + 1 : Nat) := by
      push_cast
      linarith
    exact Nat.lt_succ_iff.mp (Nat.cast_lt.mp hlt)

end Rig
end Flotation
