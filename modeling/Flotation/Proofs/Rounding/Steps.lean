import Flotation.Proofs.Rounding.Grids

/-! Steps of one length, each of them rounded. A step never leads back; it leads on if its length is more than half
the last place of the number, and it is never twice as long as it ought to be. -/
namespace Flotation.Rounding
open Float.Model
variable {S : Format} {x y r d : ℚ} {t u : ℤ}

/-- A greater number does not have its last place further down. -/
theorem Place.le_of_abs_le (hx : Place S x t) (hy : Place S y u) (h : |x| ≤ |y|) : t ≤ u := by
  rcases hx.le with rfl | hle
  · exact hy.least
  · have := two_zpow_lt_iff.mp ((hle.trans h).trans_lt hy.lt)
    omega

/-- The last place is no further up than that of the end of a grid that the number is on. -/
theorem Place.le_of_abs_lt {e : ℤ} (hx : Place S x t) (he : S.minExponent ≤ e)
    (h : |x| < 2 ^ (e + S.mantissaBits)) : t ≤ e := by
  rcases hx.le with rfl | hle
  · exact he
  · have := two_zpow_lt_iff.mp (hle.trans_lt h)
    omega

/-- The next point after one of a grid. -/
theorem OnGrid.add_unit (hx : OnGrid S x) (hp : Place S x t) : OnGrid S (x + 2 ^ t) := by
  obtain ⟨m, hm⟩ := hp.exists_eq hx
  have hlt := hp.abs_div_lt
  rw [hm, mul_div_cancel_right₀ _ (two_zpow_pos t).ne'] at hlt
  refine ⟨m + 1, t, hp.least, ?_, ?_⟩
  · have hz : |m| < 2 ^ S.mantissaBits := by exact_mod_cast hlt
    have hle : |m + 1| ≤ 2 ^ S.mantissaBits := (abs_add_le m 1).trans (by rw [abs_one]; omega)
    exact_mod_cast hle
  · rw [hm]
    push_cast
    ring

/-- Two numbers are apart by a unit of the finest grid. -/
theorem OnGrid.add_le_of_lt (hx : OnGrid S x) (hy : OnGrid S y) (h : x < y) : x + 2 ^ S.minExponent ≤ y := by
  obtain ⟨k, rfl⟩ := hx.exists_multiple
  obtain ⟨l, rfl⟩ := hy.exists_multiple
  have hpos := two_zpow_pos S.minExponent
  have hkl : k + 1 ≤ l := by exact_mod_cast lt_of_mul_lt_mul_right h hpos.le
  calc (k : ℚ) * 2 ^ S.minExponent + 2 ^ S.minExponent = ((k + 1 : ℤ) : ℚ) * 2 ^ S.minExponent := by
        push_cast
        ring
    _ ≤ l * 2 ^ S.minExponent := mul_le_mul_of_nonneg_right (by exact_mod_cast hkl) hpos.le

namespace RoundsTo

theorem le_add (h : RoundsTo S (x + d) r) (hx : OnGrid S x) (hd : 0 ≤ d) : x ≤ r :=
  h.ge_of_ge hx (le_add_of_nonneg_right hd)

/-- More than half the last place is not lost. -/
theorem lt_add (h : RoundsTo S (x + d) r) (hx : OnGrid S x) (hp : Place S x t) (hd : 2 ^ t < 2 * d) : x < r := by
  have hpos := two_zpow_pos t
  refine (h.le_add hx (by linarith)).lt_of_ne fun he => ?_
  have hnear := h.nearer (hx.add_unit hp)
  rw [← he, sub_add_cancel_left, abs_neg, abs_of_pos (by linarith), add_sub_add_left_eq_sub] at hnear
  rcases le_abs.mp hnear with h1 | h1 <;> linarith

/-- Not to step at all would be as wrong as to step too far by a whole step. -/
theorem sub_le_two_mul (h : RoundsTo S (x + d) r) (hx : OnGrid S x) (hd : 0 ≤ d) : r - x ≤ 2 * d := by
  have hnear := h.nearer hx
  rw [sub_add_cancel_left, abs_neg, abs_of_nonneg hd] at hnear
  linarith [(abs_le.mp hnear).2]

/-- Where the last place is not above the length of the step, a step is too long by half of it at most. -/
theorem sub_le_three_halves {e : ℤ} (h : RoundsTo S (x + d) r) (he : S.minExponent ≤ e) (hd : 2 ^ e ≤ d)
    (hlo : -2 ^ (e + S.mantissaBits) < x + d) (hhi : x + d ≤ 2 ^ (e + S.mantissaBits)) :
    r - x ≤ 3 / 2 * d := by
  rcases hhi.lt_or_eq with hlt | heq
  · obtain ⟨n, t, hp, -, -⟩ := id h
    have ht := hp.le_of_abs_lt he (abs_lt.mpr ⟨hlo, hlt⟩)
    have hte : (2 : ℚ) ^ t ≤ 2 ^ e := two_zpow_le_iff.mpr ht
    have herr := (abs_le.mp (h.abs_sub_le_half hp)).2
    linarith
  · have hr := h.eq_of_onGrid (heq ▸ .two_zpow (by omega))
    have := two_zpow_pos e
    linarith

end RoundsTo

section
variable {a : ℕ → ℚ} {j : ℕ}

theorem steps_onGrid (h0 : OnGrid S (a 0)) (h : ∀ i < j, RoundsTo S (a i + d) (a (i + 1))) {i : ℕ} (hi : i ≤ j) :
    OnGrid S (a i) := by
  cases i with
  | zero => exact h0
  | succ i => exact (h i hi).onGrid

theorem steps_mono (h0 : OnGrid S (a 0)) (h : ∀ i < j, RoundsTo S (a i + d) (a (i + 1))) (hd : 0 ≤ d) {i : ℕ}
    (hi : i ≤ j) : a 0 ≤ a i := by
  induction i with
  | zero => exact le_rfl
  | succ i ih => exact (ih (by omega)).trans ((h i hi).le_add (steps_onGrid h0 h (by omega)) hd)

/-- Steps are too long by half at most, as long as they stay below the end of a grid whose last place is not above
their length; when they have got beyond it, most of a way to a number below it lies behind them. -/
theorem steps_sub_le {e : ℤ} {goal : ℚ} (h0 : OnGrid S (a 0)) (h : ∀ i < j, RoundsTo S (a i + d) (a (i + 1)))
    (he : S.minExponent ≤ e) (hd : 2 ^ e ≤ d) (hlo : -2 ^ (e + S.mantissaBits) < a 0)
    (hgoal : goal < 2 ^ (e + S.mantissaBits)) {i : ℕ} (hi : i ≤ j) :
    a i - a 0 ≤ 3 / 2 * (i * d) ∨ a i - a 0 ≤ 2 * (i * d) - (goal - a 0 - d) / 3 := by
  have hpos : 0 < d := (two_zpow_pos e).trans_le hd
  induction i with
  | zero => simp
  | succ i ih =>
    have hgrid := steps_onGrid h0 h (i := i) (by omega)
    have htwo := (h i hi).sub_le_two_mul hgrid hpos.le
    have hcast : ((i + 1 : ℕ) : ℚ) * d = i * d + d := by
      push_cast
      ring
    rw [hcast]
    rcases ih (by omega) with hfirst | hsecond
    · rcases le_or_gt (a i + d) (2 ^ (e + S.mantissaBits)) with hin | hout
      · have hmono := steps_mono h0 h hpos.le (i := i) (by omega)
        have := (h i hi).sub_le_three_halves he hd (by linarith) hin
        exact .inl (by linarith)
      · exact .inr (by linarith)
    · exact .inr (by linarith)

/-- If the steps make up the way to a goal but for a fourteenth, they do not end as far beyond the goal as they
started before it. -/
theorem steps_lt_two_mul {e : ℤ} {goal : ℚ} (h0 : OnGrid S (a 0)) (h : ∀ i < j, RoundsTo S (a i + d) (a (i + 1)))
    (he : S.minExponent ≤ e) (hd : 2 ^ e ≤ d) (hlo : -2 ^ (e + S.mantissaBits) < a 0)
    (hgoal : goal < 2 ^ (e + S.mantissaBits)) (hgrid : OnGrid S goal) (hlt : a 0 < goal) (hj : 1 ≤ j)
    (hway : j * d ≤ 15 / 14 * (goal - a 0)) : a j - a 0 < 2 * (goal - a 0) := by
  have hpos : 0 < d := (two_zpow_pos e).trans_le hd
  rcases hj.eq_or_lt with rfl | htwo
  -- A single step ends no further from where it ought to than the goal is.
  · have hnear := (h 0 one_pos).nearer hgrid
    rw [Nat.cast_one, one_mul] at hway
    have hstep := (abs_le.mp hnear).2
    rw [zero_add] at hstep
    rcases abs_cases (goal - (a 0 + d)) with ⟨hc, -⟩ | ⟨hc, -⟩ <;> rw [hc] at hstep <;> linarith
  · have hcast : (2 : ℚ) * d ≤ j * d := mul_le_mul_of_nonneg_right (by exact_mod_cast htwo) hpos.le
    rcases steps_sub_le h0 h he hd hlo hgoal le_rfl with hfirst | hsecond <;> linarith

end

end Flotation.Rounding
