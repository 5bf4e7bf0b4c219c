import Flotation.Proofs.Rounding.Doubles
import Flotation.Proofs.Simulator.Chronicle
import Flotation.Proofs.Simulator.Making
import Flotation.Proofs.Setup.Building

/-! The number of ticks that a run is to take. It is a double before it is a count, and counts have 64 bits. -/
namespace Flotation
open Float.Model Rounding

namespace Double
variable {x y : Float} {q : ℚ}

theorem value_zero : value 0.0 = 0 := rfl

theorem value_pos_of_isPositive (h : Scalar.IsPositive x) : 0 < value x := by
  have hz : (0.0 : Float).isFinite = true := rfl
  have hn := h.2
  rw [le_iff h.1 hz, value_zero, not_le] at hn
  exact hn

/-- The little that is added to a number of ticks. -/
theorem value_tolerance : 0 < value 1e-9 ∧ value 1e-9 ≤ 2 ^ (-29 : ℤ) := by
  have hb : Binary64.ofFloat 1e-9 = .finite false 4835703278458517 (-82) := by decide +kernel
  rw [← Binary64.value_ofFloat, hb]
  constructor <;> norm_num [Binary64.value]

/-- The little that is added does not carry a number of ticks over a power of two. -/
theorem add_tolerance_below_iff (hx : 0.0 ≤ x) :
    ((x + 1e-9).isFinite = true ∧ value (x + 1e-9) < 2 ^ (64 : ℤ)) ↔
      x.isFinite = true ∧ value x < 2 ^ (64 : ℤ) := by
  have ht : (1e-9 : Float).isFinite = true := rfl
  obtain ⟨hpos, hsmall⟩ := value_tolerance
  rcases zero_le_iff.mp hx with hi | ⟨hf, h0⟩
  · rw [isFinite_of_infinite hi, isFinite_of_infinite (infinite_add hi ht)]
    exact iff_of_false (by simp) (by simp)
  · rw [(stands_add hf ht).below_iff (by linarith) (by norm_num) (by norm_num), and_iff_right hf]
    have hlast : (2 : ℚ) ^ ((64 : ℤ) - 53) / 2 = 2 ^ (10 : ℤ) := by norm_num
    have hunit : (2 : ℚ) ^ ((64 : ℤ) - Format.binary64.mantissaBits) = 2 ^ (11 : ℤ) := rfl
    rw [hlast]
    constructor
    · intro h
      linarith [two_zpow_pos 10]
    · intro h
      have := (onGrid_value x).le_of_lt_two_zpow (e := 64) (by decide) h
      rw [hunit] at this
      norm_num at hsmall this ⊢
      linarith

end Double

namespace Simulator
variable {s : Simulator Float}

theorem remaining_isPositive (h : s.hasTimeLeft = true) : Scalar.IsPositive s.remaining := by
  obtain ⟨hf, hn⟩ := Bool.and_eq_true_iff.mp h
  exact ⟨hf, of_decide_eq_false ((Bool.not_eq_true' _).mp hn)⟩

theorem tickLength_isPositive (h : s.setup.issues = []) : Scalar.IsPositive s.setup.tickLength :=
  (SimulatorSetup.issues_eq_nil.mp h).2.1

theorem countOf_ofFloat (x : Float) :
    Scalar.countOf (.ofFloat x) = if ⌊Double.value x⌋₊ < 2 ^ 64 then ⌊Double.value x⌋₊ else 0 := by
  rw [Scalar.countOf, Scalar.counted, Binary64.wholePart_eq_floor, Binary64.value_ofFloat, Nat.one_shiftLeft,
    Scalar.overflowCount]

/-- A run that gets past its look at the time that is left has a number of ticks before it that is not below zero. It
is finite and less than what counts come to if, and only if, the time left is as many times the length of a tick but
for half a unit of the last place. Only then it is its whole part that is counted; otherwise nothing is. -/
theorem tickQuotient_counts_iff (s : Simulator Float) (hv : s.setup.issues = []) (hl : s.hasTimeLeft = true) :
    0.0 ≤ s.tickQuotient ∧
      (s.tickQuotient.isFinite = true ∧ ⌊Double.value s.tickQuotient⌋₊ < 2 ^ 64 ↔
        Double.value s.remaining < (2 ^ 64 - 2 ^ 10) * Double.value s.setup.tickLength) ∧
      s.ticksLeft =
        if Double.value s.remaining < (2 ^ 64 - 2 ^ 10) * Double.value s.setup.tickLength then
          ⌊Double.value s.tickQuotient⌋₊
        else 0 := by
  have hr := remaining_isPositive hl
  have hd := tickLength_isPositive hv
  have hr0 := Double.value_pos_of_isPositive hr
  have hd0 := Double.value_pos_of_isPositive hd
  have hq0 := (div_pos hr0 hd0).le
  have hquot := Double.stands_div hr.1 hd.1 hd0.ne'
  have htol : (1e-9 : Float).isFinite = true := rfl
  have hquot0 := hquot.zero_le hq0
  have hcount0 : 0.0 ≤ s.tickQuotient := Double.le_add_of_le rfl hquot0 htol Double.value_tolerance.1.le
  have hbelow : (s.tickQuotient.isFinite = true ∧ Double.value s.tickQuotient < 2 ^ (64 : ℤ)) ↔
      Double.value s.remaining < (2 ^ 64 - 2 ^ 10) * Double.value s.setup.tickLength := by
    rw [tickQuotient, Double.add_tolerance_below_iff hquot0, hquot.below_iff hq0 (by norm_num) (by norm_num),
      div_lt_iff₀ hd0]
    norm_num
  have hfloor : (s.tickQuotient.isFinite = true ∧ ⌊Double.value s.tickQuotient⌋₊ < 2 ^ 64) ↔
      Double.value s.remaining < (2 ^ 64 - 2 ^ 10) * Double.value s.setup.tickLength := by
    rw [← hbelow]
    rcases Double.zero_le_iff.mp hcount0 with hi | ⟨hf, h0⟩
    · rw [Double.isFinite_of_infinite hi]
      exact iff_of_false (by simp) (by simp)
    · rw [and_iff_right hf, and_iff_right hf, Nat.floor_lt h0]
      norm_num
  refine ⟨hcount0, hfloor, ?_⟩
  have hticks : s.ticksLeft = Scalar.countOf (.ofFloat s.tickQuotient) := rfl
  rw [hticks, countOf_ofFloat]
  cases hf : s.tickQuotient.isFinite with
  | true =>
    rw [hf, and_iff_right rfl] at hfloor
    exact if_congr hfloor rfl rfl
  | false => simp [Double.value_of_not_finite hf]

theorem standard_ticks_counted :
    ∃ start st, (create (.standard : SimulatorSetup Float)).run {} = (.returned start, st) ∧
      start.setup.issues = [] ∧ start.hasTimeLeft = true ∧ 0.0 ≤ start.tickQuotient ∧
      Double.value start.remaining < (2 ^ 64 - 2 ^ 10) * Double.value start.setup.tickLength ∧
      start.ticksLeft = ⌊Double.value start.tickQuotient⌋₊ := by
  have hm : (launched (.standard : SimulatorSetup Float) {}).any (fun new =>
      new.simulator.setup.issues.isEmpty && new.simulator.hasTimeLeft && new.simulator.tickQuotient.isFinite &&
        decide ((Binary64.ofFloat new.simulator.tickQuotient).wholePart < 2 ^ 64)) = true := by
    decide +kernel
  obtain ⟨⟨start, st⟩, hn, hm⟩ := (Option.any_eq_true _ _).mp hm
  simp only [Bool.and_eq_true, List.isEmpty_iff, decide_eq_true_eq] at hm
  obtain ⟨⟨⟨hv, hl⟩, hf⟩, hw⟩ := hm
  rw [Binary64.wholePart_eq_floor, Binary64.value_ofFloat] at hw
  obtain ⟨h0, hiff, hticks⟩ := tickQuotient_counts_iff start hv hl
  have hr := hiff.mp ⟨hf, hw⟩
  rw [if_pos hr] at hticks
  exact ⟨start, st, create_of_launched hn, hv, hl, h0, hr, hticks⟩

/-- Ticks of a second up to a time that has more seconds than there are counts. -/
def endless : SimulatorSetup Float :=
  { SimulatorSetup.standard with finish := 1180591620717411303424.0, tickLength := 1.0 }

/-- There is time left, and none of it is used. -/
theorem endless_ticks_uncounted :
    ∃ start st, (create endless).run {} = (.returned start, st) ∧ start.setup.issues = [] ∧
      start.hasTimeLeft = true ∧ 2 ^ 64 ≤ ⌊Double.value start.tickQuotient⌋₊ ∧ start.ticksLeft = 0 := by
  have hm : (launched endless {}).any (fun new =>
      new.simulator.setup.issues.isEmpty && new.simulator.hasTimeLeft &&
        decide (2 ^ 64 ≤ (Binary64.ofFloat new.simulator.tickQuotient).wholePart) &&
        decide (new.simulator.ticksLeft = 0)) = true := by
    decide +kernel
  obtain ⟨⟨start, st⟩, hn, hm⟩ := (Option.any_eq_true _ _).mp hm
  simp only [Bool.and_eq_true, List.isEmpty_iff, decide_eq_true_eq] at hm
  obtain ⟨⟨⟨hv, hl⟩, hw⟩, hticks⟩ := hm
  rw [Binary64.wholePart_eq_floor, Binary64.value_ofFloat] at hw
  exact ⟨start, st, create_of_launched hn, hv, hl, hw, hticks⟩

end Simulator
end Flotation
