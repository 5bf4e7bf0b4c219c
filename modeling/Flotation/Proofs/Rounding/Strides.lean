import Flotation.Proofs.Rounding.Doubles
import Flotation.Proofs.Rounding.Steps

/-! Doubles to which one length is added time and again, as to a clock. -/
namespace Flotation.Double
open Float.Model Rounding
variable {x y z d : Float}

/-- Between finite doubles there are no others. -/
theorem isFinite_of_le_of_lt (hx : x.isFinite = true) (hz : z.isFinite = true) (h : x ≤ y) (h' : y < z) :
    y.isFinite = true := by
  rcases (le_iff_of_isFinite hx).mp h with hi | ⟨hf, -⟩
  · exact absurd h' (not_lt_of_infinite hi hz)
  · exact hf

/-- On the way up, what is not below a double any more has reached it. -/
theorem le_of_not_lt (hx : x.isFinite = true) (hz : z.isFinite = true) (h : x ≤ y) (h' : ¬ y < z) : z ≤ y := by
  rcases (le_iff_of_isFinite hx).mp h with hi | ⟨hf, -⟩
  · exact (le_iff_of_isFinite hz).mpr (.inl hi)
  · rw [lt_iff hf hz, not_lt] at h'
    exact (le_iff hz hf).mpr h'

theorem value_half : value 0.5 = 1 / 2 := by
  have hb : Binary64.ofFloat 0.5 = .finite false 4503599627370496 (-53) := by decide +kernel
  rw [← Binary64.value_ofFloat, hb]
  norm_num [Binary64.value]

/-- Half a length is one, too. -/
theorem half_nonneg (hd : d.isFinite = true) (h0 : 0 ≤ value d) :
    (0.5 * d).isFinite = true ∧ 0 ≤ value (0.5 * d) := by
  have hzero : value 0.0 = 0 := rfl
  have hmul : Stands (value 0.5 * value d) (0.5 * d) := stands_mul rfl hd
  rw [value_half] at hmul
  obtain ⟨hf, hlo, -⟩ := hmul.between (x := 0.0) (z := d) (by rw [hzero]; linarith) (by linarith)
  exact ⟨hf, hzero ▸ hlo⟩

theorem gap_le_gap (h : |value x| ≤ |value y|) : gap x ≤ gap y :=
  two_zpow_le_iff.mpr ((place_value x).le_of_abs_le (place_value y) h)

/-- On the way from one double to another the gaps are not greater than at both ends. -/
theorem gap_le_max (hx : value x ≤ value y) (hz : value y ≤ value z) : gap y ≤ max (gap x) (gap z) := by
  rcases le_max_iff.mp (abs_le_max_abs_abs hx hz) with h | h
  · exact (gap_le_gap h).trans (le_max_left _ _)
  · exact (gap_le_gap h).trans (le_max_right _ _)

/-- What is added is not lost if it is more than half the gap. -/
theorem lt_add (hx : x.isFinite = true) (hd : d.isFinite = true) (h : gap x < 2 * value d) : x < x + d := by
  have hpos : 0 < gap x := two_zpow_pos _
  rcases (stands_add hx hd).cases_of_le (le_add_of_nonneg_right (by linarith)) with ⟨hf, hr⟩ | hi
  · exact (lt_iff hx hf).mpr (hr.lt_add (onGrid_value x) (place_value x) h)
  · exact lt_infinite hx hi

section
variable (hx : x.isFinite = true) (hd : d.isFinite = true)
include hx hd

theorem le_iterate (h0 : 0 ≤ value d) (k : ℕ) : x ≤ (· + d)^[k] x := by
  induction k with
  | zero => exact (le_iff hx hx).mpr le_rfl
  | succ k ih =>
    rw [Function.iterate_succ_apply']
    exact le_add_of_le hx ih hd h0

theorem lt_iterate (h0 : 0 ≤ value d) (h : x < x + d) {k : ℕ} (hk : 0 < k) : x < (· + d)^[k] x := by
  induction k, hk using Nat.le_induction with
  | base => exact h
  | succ k hk ih =>
    rw [Function.iterate_succ_apply']
    refine (lt_iff_of_isFinite hx).mpr ?_
    rcases (lt_iff_of_isFinite hx).mp ih with hi | ⟨hf, hlt⟩
    · exact .inl (infinite_add hi hd)
    · rcases (stands_add hf hd).cases_of_le (le_add_of_nonneg_right h0) with ⟨hf', hr⟩ | hi
      · exact .inr ⟨hf', hlt.trans_le (hr.le_add (onGrid_value _) h0)⟩
      · exact .inl hi

/-- There is no way back from infinity. -/
theorem isFinite_iterate (h0 : 0 ≤ value d) {i k : ℕ} (hi : i ≤ k) (h : ((· + d)^[k] x).isFinite = true) :
    ((· + d)^[i] x).isFinite = true := by
  induction k, hi using Nat.le_induction with
  | base => exact h
  | succ k hi ih =>
    rw [Function.iterate_succ_apply'] at h
    rcases (le_iff_of_isFinite hx).mp (le_iterate hx hd h0 k) with hk | ⟨hk, -⟩
    · exact absurd (infinite_add hk hd) (ne_infinity h _)
    · exact ih hk

theorem roundsTo_iterate (h0 : 0 ≤ value d) {i k : ℕ} (hi : i < k) (h : ((· + d)^[k] x).isFinite = true) :
    RoundsTo (value ((· + d)^[i] x) + value d) (value ((· + d)^[i + 1] x)) := by
  have hnow := isFinite_iterate hx hd h0 hi.le h
  have hnext := isFinite_iterate hx hd h0 hi h
  rw [Function.iterate_succ_apply'] at hnext ⊢
  exact (stands_add hnow hd).rounds hnext

/-- One length that is not lost at either end is enough to get from the one to the other. -/
theorem exists_iterate_not_lt (hz : z.isFinite = true) (hgx : gap x < 2 * value d) (hgz : gap z < 2 * value d) :
    ∃ k, ¬ (· + d)^[k] x < z := by
  by_contra! hall
  have hpos : 0 < gap x := two_zpow_pos _
  have h0 : 0 ≤ value d := by linarith
  have hfin (k : ℕ) := isFinite_of_le_of_lt hx hz (le_iterate hx hd h0 k) (hall k)
  have hup (k : ℕ) : value x + k * 2 ^ Format.binary64.minExponent ≤ value ((· + d)^[k] x) := by
    induction k with
    | zero => simp
    | succ k ih =>
      have hlo := (le_iff hx (hfin k)).mp (le_iterate hx hd h0 k)
      have hhi := ((lt_iff (hfin k) hz).mp (hall k)).le
      have hgap : gap ((· + d)^[k] x) < 2 * value d := (gap_le_max hlo hhi).trans_lt (max_lt hgx hgz)
      have hstep := lt_add (hfin k) hd hgap
      rw [← Function.iterate_succ_apply' (· + d)] at hstep
      have hunit := (onGrid_value _).add_le_of_lt (onGrid_value _) ((lt_iff (hfin k) (hfin (k + 1))).mp hstep)
      push_cast
      linarith
  obtain ⟨k, hk⟩ := exists_nat_gt ((value z - value x) / 2 ^ Format.binary64.minExponent)
  rw [div_lt_iff₀ (two_zpow_pos _)] at hk
  linarith [hup k, (lt_iff (hfin k) hz).mp (hall k)]

/-- Steps of a length that is not below the gaps at the start and at the goal lead nearer to the goal, if all in all
they are not longer than the way but for a fourteenth. -/
theorem iterate_nearer (hgx : gap x ≤ value d) (hgz : gap z ≤ value d) (hlt : value x < value z) {k : ℕ}
    (hk : 1 ≤ k) (hway : k * value d ≤ 15 / 14 * (value z - value x))
    (h : ((· + d)^[k] x).isFinite = true) : |value z - value ((· + d)^[k] x)| < |value z - value x| := by
  have hpos : 0 < gap x := two_zpow_pos _
  have h0 : 0 ≤ value d := by linarith
  have hrounds (i : ℕ) (hi : i < k) := roundsTo_iterate hx hd h0 hi h
  obtain ⟨e, he, hgrid, hxe, hze⟩ : ∃ e : ℤ, -1074 ≤ e ∧ 2 ^ e ≤ value d ∧
      lastPlace x ≤ e ∧ lastPlace z ≤ e := by
    rcases le_total (lastPlace x) (lastPlace z) with hle | hle
    · exact ⟨lastPlace z, (place_value z).least, hgz, hle, le_rfl⟩
    · exact ⟨lastPlace x, (place_value x).least, hgx, le_rfl, hle⟩
  have hend {y : Float} (hy : lastPlace y ≤ e) : |value y| < 2 ^ (e + Format.binary64.mantissaBits) :=
    (place_value y).lt.trans_le (two_zpow_le_iff.mpr (by omega))
  have hfar : value ((· + d)^[k] x) - value x < 2 * (value z - value x) :=
    steps_lt_two_mul (a := fun i => value ((· + d)^[i] x)) (onGrid_value x) hrounds he hgrid
      (abs_lt.mp (hend hxe)).1 (abs_lt.mp (hend hze)).2 (onGrid_value z) hlt hk hway
  have hnear := (lt_iff hx h).mp (lt_iterate hx hd h0 (lt_add hx hd (by linarith)) hk)
  rw [abs_of_pos (sub_pos.mpr hlt), abs_lt]
  constructor <;> linarith

end

end Flotation.Double
