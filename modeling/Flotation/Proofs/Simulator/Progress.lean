import Flotation.Demo
import Flotation.Proofs.Rounding.Strides
import Flotation.Proofs.Simulator.Pace
import Flotation.Proofs.Simulator.TickCount

/-! Whether simulated time makes progress. A tick may be so short beside the time that it is lost when it is added;
nothing in a setup is at odds with that. -/
namespace Flotation
open Flotation.Action

namespace SimulatorSetup

/-- Ticks are longer than half the gaps that doubles have at both ends of the time span. -/
def Discernible (c : SimulatorSetup Float) : Prop :=
  Double.gap c.start < 2 * Double.value c.tickLength ∧ Double.gap c.finish < 2 * Double.value c.tickLength

/-- Ticks are not shorter than these gaps. -/
def Resolved (c : SimulatorSetup Float) : Prop :=
  Double.gap c.start ≤ Double.value c.tickLength ∧ Double.gap c.finish ≤ Double.value c.tickLength

theorem times_isFinite {c : SimulatorSetup Float} (h : c.issues = []) :
    c.start.isFinite = true ∧ c.finish.isFinite = true := by
  obtain ⟨hstart, hfinish, -⟩ := timeIssues_eq_nil.mp (issues_eq_nil.mp h).2.2.1
  exact ⟨hstart, hfinish⟩

end SimulatorSetup

namespace Double
open Float.Model Rounding
variable {q r : ℚ}

theorem roundsTo_le_mul (h : RoundsTo q r) (hq : 1 / 2 ≤ q) : r ≤ 65 / 64 * q := by
  refine h.le_mul (by decide) (le_trans ?_ hq)
  rw [one_div, ← zpow_neg_one]
  exact two_zpow_le_iff.mpr (by decide)

/-- A quotient that is rounded, then added the tolerance to and rounded again, comes to one only if it is near to one
itself. From there on it is not made much greater. -/
theorem tolerated_le_mul {x Q : ℚ} (hq : RoundsTo x q) (hQ : RoundsTo (q + value 1e-9) Q) (hone : 1 ≤ Q) :
    Q ≤ (65 / 64) ^ 3 * x := by
  obtain ⟨hpos, hsmall⟩ := value_tolerance
  have htol : (2 : ℚ) ^ (-29 : ℤ) ≤ 1 / 128 := by norm_num
  have hq1 : 31 / 32 < q := by
    by_contra! hle
    have hgrid : OnGrid Format.binary64 (63 / 64) :=
      ⟨63, -6, by decide, by norm_num [mantissaBits_binary64], by norm_num⟩
    have := hQ.le_of_le hgrid (by linarith)
    linarith
  have hx1 : 15 / 16 < x := by
    by_contra! hle
    have hgrid : OnGrid Format.binary64 (15 / 16) :=
      ⟨15, -4, by decide, by norm_num [mantissaBits_binary64], by norm_num⟩
    have := hq.le_of_le hgrid hle
    linarith
  have hquot := roundsTo_le_mul hq (by linarith)
  calc Q ≤ 65 / 64 * (q + value 1e-9) := roundsTo_le_mul hQ (by linarith)
    _ ≤ 65 / 64 * (65 / 64 * q) := by linarith
    _ ≤ (65 / 64) ^ 3 * x := by linarith

end Double

namespace Simulator
open Rounding Double
variable {s : Simulator Float}

/-- The number of ticks has been rounded twice, once as a quotient and once more when the tolerance was added. -/
theorem tickQuotient_rounds (hv : s.setup.issues = []) (hl : s.hasTimeLeft = true)
    (hf : s.tickQuotient.isFinite = true) :
    ∃ q, RoundsTo (value s.remaining / value s.setup.tickLength) q ∧
      RoundsTo (q + value 1e-9) (value s.tickQuotient) := by
  have hr := remaining_isPositive hl
  have hd := tickLength_isPositive hv
  have hd0 := value_pos_of_isPositive hd
  have hq0 := (div_pos (value_pos_of_isPositive hr) hd0).le
  have htol : (1e-9 : Float).isFinite = true := rfl
  rcases (stands_div hr.1 hd.1 hd0.ne').cases_of_nonneg hq0 with ⟨hqf, hq, -⟩ | ⟨hi, -⟩
  · exact ⟨_, hq, (stands_add hqf htol).rounds hf⟩
  · exact absurd (infinite_add hi htol) (ne_infinity hf _)

theorem remaining_le_mul (hv : s.setup.issues = []) (hl : s.hasTimeLeft = true) (ht : s.time.isFinite = true)
    (hle : value s.time ≤ value s.setup.finish) :
    value s.remaining ≤ 65 / 64 * (value s.setup.finish - value s.time) := by
  have hround := (stands_sub (SimulatorSetup.times_isFinite hv).2 ht).rounds (remaining_isPositive hl).1
  exact hround.sub_le_mul (by decide) (onGrid_value _) (onGrid_value _) hle

/-- The ticks that a run takes are not longer than the time left but for a fourteenth, though it is rounded four
times. -/
theorem ticksLeft_mul_le (hv : s.setup.issues = []) (hl : s.hasTimeLeft = true) (ht : s.time.isFinite = true)
    (hlt : value s.time < value s.setup.finish) :
    s.ticksLeft * value s.setup.tickLength ≤ 15 / 14 * (value s.setup.finish - value s.time) := by
  obtain ⟨hcount0, hiff, hticks⟩ := tickQuotient_counts_iff s hv hl
  have hd0 := value_pos_of_isPositive (tickLength_isPositive hv)
  rcases Nat.eq_zero_or_pos s.ticksLeft with hz | hone
  · rw [hz, Nat.cast_zero, zero_mul]
    linarith
  · have hbelow : value s.remaining < (2 ^ 64 - 2 ^ 10) * value s.setup.tickLength := by
      by_contra hge
      rw [if_neg hge] at hticks
      omega
    have hf := (hiff.mpr hbelow).1
    rw [if_pos hbelow] at hticks
    obtain ⟨q, hq, hround⟩ := tickQuotient_rounds hv hl hf
    have hn : (s.ticksLeft : ℚ) ≤ value s.tickQuotient := by
      rw [hticks]
      exact Nat.floor_le ((le_iff rfl hf).mp hcount0)
    have hn1 : (1 : ℚ) ≤ s.ticksLeft := by exact_mod_cast hone
    have hle := tolerated_le_mul hq hround (hn1.trans hn)
    have hrem := remaining_le_mul hv hl ht hlt.le
    calc s.ticksLeft * value s.setup.tickLength
        ≤ (65 / 64) ^ 3 * (value s.remaining / value s.setup.tickLength) * value s.setup.tickLength :=
          mul_le_mul_of_nonneg_right (hn.trans hle) hd0.le
      _ = (65 / 64) ^ 3 * value s.remaining := by rw [mul_assoc, div_mul_cancel₀ _ hd0.ne']
      _ ≤ 15 / 14 * (value s.setup.finish - value s.time) := by linarith

/-- With a whole tick left, a run has at least one tick before it. -/
theorem ticksLeft_pos (hv : s.setup.issues = []) (hl : s.hasTimeLeft = true) (hone : s.setup.tickLength ≤ s.remaining)
    (hbelow : value s.remaining < (2 ^ 64 - 2 ^ 10) * value s.setup.tickLength) : 0 < s.ticksLeft := by
  obtain ⟨-, hiff, hticks⟩ := tickQuotient_counts_iff s hv hl
  have hd := tickLength_isPositive hv
  have hd0 := value_pos_of_isPositive hd
  obtain ⟨q, hq, hround⟩ := tickQuotient_rounds hv hl (hiff.mpr hbelow).1
  have hgrid : OnGrid Float.Model.Format.binary64 1 :=
    ⟨1, 0, by decide, by norm_num [mantissaBits_binary64], by norm_num⟩
  have hq1 := hq.ge_of_ge hgrid ((one_le_div hd0).mpr ((le_iff hd.1 (remaining_isPositive hl).1).mp hone))
  have hle := hround.ge_of_ge hgrid (hq1.trans (le_add_of_nonneg_right value_tolerance.1.le))
  rw [hticks, if_pos hbelow]
  exact Nat.floor_pos.mpr hle

end Simulator

/-- A simulator that has been left to its own pace and is not at its end time yet. -/
structure Simulator.OnTheWay (setup : SimulatorSetup Float) (s : Simulator Float) : Prop where
  setup_eq : s.setup = setup
  issues : setup.issues = []
  ticking : ∃ k, s.time = (· + setup.tickLength)^[k] setup.start
  early : s.time < setup.finish

namespace Simulator.OnTheWay
open Double
variable {setup : SimulatorSetup Float} {s : Simulator Float}

theorem tickLength_isFinite (h : s.OnTheWay setup) : setup.tickLength.isFinite = true :=
  (SimulatorSetup.issues_eq_nil.mp h.issues).2.1.1

theorem tickLength_nonneg (h : s.OnTheWay setup) : 0 ≤ value setup.tickLength :=
  (value_pos_of_isPositive (SimulatorSetup.issues_eq_nil.mp h.issues).2.1).le

theorem times_isFinite (h : s.OnTheWay setup) : setup.start.isFinite = true ∧ setup.finish.isFinite = true :=
  SimulatorSetup.times_isFinite h.issues

theorem start_le (h : s.OnTheWay setup) : setup.start ≤ s.time := by
  obtain ⟨k, hk⟩ := h.ticking
  rw [hk]
  exact le_iterate h.times_isFinite.1 h.tickLength_isFinite h.tickLength_nonneg k

theorem time_isFinite (h : s.OnTheWay setup) : s.time.isFinite = true :=
  isFinite_of_le_of_lt h.times_isFinite.1 h.times_isFinite.2 h.start_le h.early

theorem value_lt (h : s.OnTheWay setup) : value s.time < value setup.finish :=
  (lt_iff h.time_isFinite h.times_isFinite.2).mp h.early

/-- On the way the gaps are not greater than at both ends of it. -/
theorem gap_le (h : s.OnTheWay setup) : gap s.time ≤ max (gap setup.start) (gap setup.finish) :=
  gap_le_max ((le_iff h.times_isFinite.1 h.time_isFinite).mp h.start_le) h.value_lt.le

theorem time_le_iterate (h : s.OnTheWay setup) (k : ℕ) : s.time ≤ (· + setup.tickLength)^[k] s.time :=
  le_iterate h.time_isFinite h.tickLength_isFinite h.tickLength_nonneg k

theorem gap_lt (h : s.OnTheWay setup) (hd : setup.Discernible) : gap s.time < 2 * value setup.tickLength :=
  h.gap_le.trans_lt (max_lt hd.1 hd.2)

theorem time_lt_iterate (h : s.OnTheWay setup) (hd : setup.Discernible) {k : ℕ} (hk : 0 < k) :
    s.time < (· + setup.tickLength)^[k] s.time :=
  lt_iterate h.time_isFinite h.tickLength_isFinite h.tickLength_nonneg
    (lt_add h.time_isFinite h.tickLength_isFinite (h.gap_lt hd)) hk

/-- After some number of ticks the end time is less than half a tick away, or passed. -/
theorem exists_finished (h : s.OnTheWay setup) (hd : setup.Discernible) :
    ∃ k, ∀ s' : Simulator Float, s'.setup = setup → s'.time = (· + setup.tickLength)^[k] s.time →
      Demo.unfinished s' = false := by
  obtain ⟨k, hk⟩ :=
    exists_iterate_not_lt h.time_isFinite h.tickLength_isFinite h.times_isFinite.2 (h.gap_lt hd) hd.2
  refine ⟨k, fun s' hs ht => decide_eq_false ?_⟩
  obtain ⟨hhalf, hhalf0⟩ := half_nonneg h.tickLength_isFinite h.tickLength_nonneg
  have hreached := le_of_not_lt h.time_isFinite h.times_isFinite.2 (h.time_le_iterate k) hk
  rw [ht, hs]
  exact not_lt_of_le h.times_isFinite.2 (le_add_of_le h.times_isFinite.2 hreached hhalf hhalf0)

/-- The ticks of a run lead nearer to the end time, unless they lead beyond all numbers. -/
theorem iterate_nearer (h : s.OnTheWay setup) (hr : setup.Resolved) (hl : s.hasTimeLeft = true) {k : ℕ} (hk : 0 < k)
    (hle : k ≤ s.ticksLeft) (hf : ((· + setup.tickLength)^[k] s.time).isFinite = true) :
    |value setup.finish - value ((· + setup.tickLength)^[k] s.time)| < |value setup.finish - value s.time| := by
  have hlt := h.value_lt
  have hway : k * value setup.tickLength ≤ 15 / 14 * (value setup.finish - value s.time) := by
    have hall := ticksLeft_mul_le (h.setup_eq ▸ h.issues) hl h.time_isFinite (h.setup_eq ▸ hlt)
    rw [h.setup_eq] at hall
    exact (mul_le_mul_of_nonneg_right (by exact_mod_cast hle) h.tickLength_nonneg).trans hall
  exact Double.iterate_nearer h.time_isFinite h.tickLength_isFinite (h.gap_le.trans (max_le hr.1 hr.2)) hr.2 hlt hk
    hway hf

end Simulator.OnTheWay

namespace Rig
open Rounding Simulator Double

theorem onTheWay_of_after {setup : SimulatorSetup Float} {st st' : Station} {start : Simulator Float}
    (hc : (create setup).run st = (.returned start, st')) {calls : List (Call Float)}
    (hp : ∀ call ∈ calls, call.Paced) {rig : Rig Float} (ha : (Rig.mk start st').after calls = some rig)
    (hlt : rig.simulator.time < setup.finish) :
    tickProblem? rig.simulator.setup.tickLength = none ∧ rig.simulator.OnTheWay setup := by
  obtain ⟨hf, rfl⟩ := fresh_of_create hc
  have ht := tickProblem?_of_build hf.build_eq
  obtain ⟨k, hk⟩ := after_paced hf rfl ht hp ha
  obtain ⟨hsetup, htime, -⟩ := books_iterate_ticked hk
  refine ⟨hsetup ▸ ht, hsetup, (SimulatorSetup.build_eq_ok hf.build_eq).1, ⟨k, ?_⟩, hlt⟩
  rw [← hf.time_eq]
  exact htime

/-- A simulator that has been left to its own pace, whoever of its observers and of the sinks refused what. Before
its end time a step does not turn its time back. If ticks are longer than half the gaps at both ends of the time
span, a step turns it on, and so does a run that takes any ticks, and to step on as long as half a tick is left comes
to an end. If they are not shorter than these gaps, a run that takes any ticks leads nearer to the end time, unless it
leads beyond all numbers. A run with a whole tick left takes some if nobody refuses anything. -/
theorem time_progresses {setup : SimulatorSetup Float} {st st' : Station} {start : Simulator Float}
    (hc : (create setup).run st = (.returned start, st')) {calls : List (Call Float)}
    (hp : ∀ call ∈ calls, call.Paced) {rig : Rig Float} (ha : (Rig.mk start st').after calls = some rig)
    (hlt : rig.simulator.time < setup.finish) :
    let stepped := (stepNominal.run rig).2.simulator
    let ran := (run.run rig).2.simulator
    rig.simulator.time ≤ stepped.time ∧
      (setup.Discernible →
        rig.simulator.time < stepped.time ∧
        (rig.simulator.ticks < ran.ticks → rig.simulator.time < ran.time) ∧
        ∃ n rig', rig.after (List.replicate n .stepNominal) = some rig' ∧
          Demo.unfinished rig'.simulator = false) ∧
      (setup.Resolved → rig.simulator.ticks < ran.ticks → ran.time.isFinite = true →
        |value setup.finish - value ran.time| < |value setup.finish - value rig.simulator.time|) ∧
      (rig.Unopposed → rig.simulator.hasTimeLeft = true → setup.tickLength ≤ rig.simulator.remaining →
        value rig.simulator.remaining < (2 ^ 64 - 2 ^ 10) * value setup.tickLength →
        rig.simulator.ticks < ran.ticks) := by
  intro stepped ran
  obtain ⟨ht, hway⟩ := onTheWay_of_after hc hp ha hlt
  have hsetup := hway.setup_eq
  obtain ⟨-, hstep⟩ := stepNominal_ticks ht
  obtain ⟨j, hj, hrun⟩ := run_ticks ht
  rw [hsetup] at ht hstep hrun
  obtain ⟨-, hstepped, -⟩ := books_iterate_ticked (n := 1) hstep
  obtain ⟨-, hran, hticks⟩ := books_iterate_ticked hrun
  change stepped.time = _ at hstepped
  change ran.time = _ at hran
  change ran.ticks = _ at hticks
  refine ⟨?_, fun hd => ⟨?_, fun h => ?_, ?_⟩, fun hr h hf => ?_, fun hu hl hone hbelow => ?_⟩
  · rw [hstepped]
    exact hway.time_le_iterate 1
  · rw [hstepped]
    exact hway.time_lt_iterate hd one_pos
  · rw [hran]
    exact hway.time_lt_iterate hd (by omega)
  · obtain ⟨n, hn⟩ := hway.exists_finished hd
    obtain ⟨rig', hafter, hsteps⟩ := after_steps (hsetup ▸ ht) n
    rw [hsetup] at hsteps
    obtain ⟨hsame, htime, -⟩ := books_iterate_ticked hsteps
    exact ⟨n, rig', hafter, hn _ (hsame.trans hsetup) htime⟩
  · have hsome : 0 < j := by omega
    rw [hran] at hf ⊢
    exact hway.iterate_nearer hr (hj hsome).1 hsome (hj hsome).2 hf
  · obtain ⟨-, -, hall⟩ := books_iterate_ticked (run_ticks_all hu hl (hsetup ▸ ht))
    have hpos := ticksLeft_pos (hsetup ▸ hway.issues) hl (hsetup ▸ hone) (hsetup ▸ hbelow)
    change ran.ticks = _ at hall
    omega

/-- The time span of two ticks. -/
def twoTicks : SimulatorSetup Float := { SimulatorSetup.standard with finish := 0.02 }

theorem two_ticks_resolved : twoTicks.Discernible ∧ twoTicks.Resolved ∧ 2 ^ (-7 : ℤ) ≤ value twoTicks.tickLength := by
  have hb : Binary64.ofFloat twoTicks.tickLength = .finite false 5764607523034235 (-59) := by decide +kernel
  have hlarge : (2 : ℚ) ^ (-7 : ℤ) ≤ value twoTicks.tickLength := by
    rw [← Binary64.value_ofFloat, hb]
    norm_num [Binary64.value]
  have hstart : gap twoTicks.start ≤ 2 ^ (-7 : ℤ) := two_zpow_le_iff.mpr (by decide +kernel)
  have hfinish : gap twoTicks.finish ≤ 2 ^ (-7 : ℤ) := two_zpow_le_iff.mpr (by decide +kernel)
  have hpos := two_zpow_pos (-7)
  refine ⟨⟨?_, ?_⟩, ⟨?_, ?_⟩, hlarge⟩ <;> linarith

/-- A run after a step. -/
theorem two_ticks_progress :
    ∃ start st rig, (create twoTicks).run {} = (.returned start, st) ∧
      (∀ call ∈ ([.stepNominal] : List (Call Float)), call.Paced) ∧
      (Rig.mk start st).after [.stepNominal] = some rig ∧ rig.simulator.time < twoTicks.finish ∧
      twoTicks.Discernible ∧ twoTicks.Resolved ∧ rig.Unopposed ∧
      rig.simulator.time < (stepNominal.run rig).2.simulator.time ∧
      rig.simulator.ticks < (run.run rig).2.simulator.ticks ∧
      rig.simulator.time < (run.run rig).2.simulator.time ∧
      (∃ n rig', rig.after (List.replicate n .stepNominal) = some rig' ∧ Demo.unfinished rig'.simulator = false) ∧
      |value twoTicks.finish - value (run.run rig).2.simulator.time| <
        |value twoTicks.finish - value rig.simulator.time| := by
  have hm : (launched twoTicks {}).any (fun new =>
      let rig := (stepNominal.run new).2
      decide (rig.simulator.time < twoTicks.finish) && rig.simulator.hasTimeLeft &&
        decide (twoTicks.tickLength ≤ rig.simulator.remaining) && decide (rig.simulator.remaining ≤ 0.5) &&
        (run.run rig).2.simulator.time.isFinite) = true := by
    decide +kernel
  obtain ⟨⟨start, st⟩, hn, hm⟩ := (Option.any_eq_true _ _).mp hm
  simp only [Bool.and_eq_true, decide_eq_true_eq] at hm
  obtain ⟨⟨⟨⟨hlt, hl⟩, hone⟩, hle⟩, hf⟩ := hm
  have hc := create_of_launched hn
  obtain ⟨hfresh, hsetup⟩ := fresh_of_create hc
  have ht : tickProblem? start.setup.tickLength = none := tickProblem?_of_build hfresh.build_eq
  obtain ⟨_, rig, hr, hu⟩ := smooth_step ht ⟨start, st⟩ (unopposed_of_create hc)
  have hstep : stepNominal.run ⟨start, st⟩ = (.returned (), rig) := hr
  rw [hstep] at hlt hl hone hle hf
  have ha : (Rig.mk start st).after [.stepNominal] = some rig := by
    have hr' : (answer .stepNominal).run ⟨start, st⟩ = (.returned (), rig) := hstep
    rw [after_cons (by simp [hr']), hr']
    rfl
  have hp : ∀ call ∈ ([.stepNominal] : List (Call Float)), call.Paced :=
    List.forall_mem_singleton.mpr trivial
  obtain ⟨hd, hresolved, hlarge⟩ := two_ticks_resolved
  obtain ⟨-, hon, hnear, hsome⟩ := time_progresses hc hp ha hlt
  obtain ⟨hstepped, hran, hloop⟩ := hon hd
  have hbelow : value rig.simulator.remaining < (2 ^ 64 - 2 ^ 10) * value twoTicks.tickLength := by
    have hle := (le_iff (remaining_isPositive hl).1 rfl).mp hle
    rw [value_half] at hle
    norm_num at hlarge ⊢
    linarith
  have hticks := hsome hu hl hone hbelow
  exact ⟨start, st, rig, hc, hp, ha, hlt, hd, hresolved, hu, hstepped, hticks, hran hticks, hloop,
    hnear hresolved hticks hf⟩

/-- Ticks that are just longer than half the gap, each of which is taken for a whole gap. -/
def hasty : SimulatorSetup Float :=
  { SimulatorSetup.standard with
    start := 10000000000000000.0, finish := 10000000000000002.0, tickLength := 1.0000000000000002 }

example : (launched hasty {}).map (fun new => (run.run new).2.simulator.time) = some 10000000000000004.0 := by
  decide +kernel

/-- Half a second is a quarter of the gap that doubles have at these times. -/
def late : SimulatorSetup Float :=
  { SimulatorSetup.standard with start := 10000000000000000.0, finish := 10000000000000008.0, tickLength := 0.5 }

/-- No step turns the time on, nor does a run of all ticks there are, and to step on as long as half a tick is left
never comes to an end. -/
theorem late_time_stands :
    ∃ start st, (create late).run {} = (.returned start, st) ∧ late.issues = [] ∧ start.time < late.finish ∧
      (stepNominal.run ⟨start, st⟩).2.simulator.time = start.time ∧
      (run.run ⟨start, st⟩).1 = .returned 16 ∧ (run.run ⟨start, st⟩).2.simulator.time = start.time ∧
      ∀ n, ∃ rig', (Rig.mk start st).after (List.replicate n .stepNominal) = some rig' ∧
        Demo.unfinished rig'.simulator = true := by
  have hm : (launched late {}).any (fun new =>
      let s := new.simulator
      decide (s.time < late.finish) && decide (s.time + late.tickLength = s.time) && s.hasTimeLeft &&
        decide (s.ticksLeft = 16) && Demo.unfinished s) = true := by
    decide +kernel
  obtain ⟨⟨start, st⟩, hn, hm⟩ := (Option.any_eq_true _ _).mp hm
  simp only [Bool.and_eq_true, decide_eq_true_eq] at hm
  obtain ⟨⟨⟨⟨hlt, hfix⟩, hl⟩, hticks⟩, hearly⟩ := hm
  have hc := create_of_launched hn
  obtain ⟨hfresh, hsetup⟩ := fresh_of_create hc
  have ht : tickProblem? start.setup.tickLength = none := tickProblem?_of_build hfresh.build_eq
  have hstands {n : Nat} {rig' : Rig Float} (h : rig'.simulator.unobserved =
      (fun s => s.ticked start.setup.tickLength)^[n] start.unobserved) : rig'.simulator.time = start.time := by
    obtain ⟨-, htime, -⟩ := books_iterate_ticked h
    rw [htime, hsetup]
    exact Function.iterate_fixed hfix n
  obtain ⟨-, hstep⟩ := @stepNominal_ticks Float _ ⟨start, st⟩ ht
  obtain ⟨_, ran, -, -, hr, -, -⟩ := run_takes_series (unopposed_of_create hc) hl ht
  obtain ⟨j, -, hrun⟩ := @run_ticks Float _ ⟨start, st⟩ ht
  refine ⟨start, st, hc, ?_, hlt, hstands (n := 1) hstep, ?_, hstands hrun, fun n => ?_⟩
  · rw [← hsetup]
    exact (SimulatorSetup.build_eq_ok hfresh.build_eq).1
  · rw [hr]
    exact congrArg Outcome.returned hticks
  · obtain ⟨rig', hafter, hsteps⟩ := @after_steps Float _ ⟨start, st⟩ ht n
    refine ⟨rig', hafter, ?_⟩
    rw [Demo.unfinished, hstands hsteps, (books_iterate_ticked hsteps).1]
    exact hearly

end Rig
end Flotation
