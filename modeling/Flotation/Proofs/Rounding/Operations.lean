import Flotation.Proofs.Rounding.Grids

/-! Arithmetic on numbers taken apart: each operation gives its exact result, rounded. -/
namespace Flotation.Rounding
open Float.Model Float.Model.UnpackedFloat
variable {S : Format}

/-- The value of a finite number; others count as zero. -/
def value : UnpackedFloat → ℚ
  | .finite sign mantissa exponent _ => (sign.apply mantissa : ℤ) * 2 ^ exponent
  | _ => 0

/-- The number has the exponent that its size asks for in a format. -/
def Canonical (S : Format) : UnpackedFloat → Prop
  | .finite _ mantissa exponent _ => S.targetExponent (totalExponent mantissa exponent) = exponent
  | _ => True

/-- A finite number that stands for another one rounded. It has a sign if it is zero, too. -/
structure Result (S : Format) (x : ℚ) (u : UnpackedFloat) : Prop where
  canonical : Canonical S u
  finite : u.isFinite = true
  rounds : RoundsTo S x (value u)

theorem cast_apply (sign : Sign) (n : ℤ) : ((sign.apply n : ℤ) : ℚ) = (sign.apply 1 : ℤ) * n := by
  cases sign <;> simp [Sign.apply]

theorem log2_shiftLeft {m : ℕ} (h : m ≠ 0) (k : ℕ) : (m <<< k).log2 = m.log2 + k := by
  have hpow : 0 < 2 ^ k := Nat.two_pow_pos k
  rw [Nat.shiftLeft_eq, Nat.log2_eq_iff (Nat.mul_ne_zero h hpow.ne'), Nat.add_right_comm, pow_add, pow_add _ _ k]
  exact ⟨Nat.mul_le_mul_right _ (Nat.log2_self_le h), Nat.mul_lt_mul_of_pos_right Nat.lt_log2_self hpow⟩

/-- The last place of a mantissa with a rest behind it. -/
theorem place_targetExponent {m : ℕ} {e : ℤ} {y : ℚ} (he : e ≤ S.targetExponent (totalExponent m e))
    (hlo : m ≤ y) (hhi : y < m + 1) : Place S (y * 2 ^ e) (S.targetExponent (totalExponent m e)) := by
  have hp : 1 < S.mantissaBits := by
    have := S.hm
    rw [Format.mantissaBits]
    omega
  have hy : 0 ≤ y := (Nat.cast_nonneg m).trans hlo
  have habs : |y * 2 ^ e| = y * 2 ^ e := abs_of_nonneg (mul_nonneg hy (two_zpow_pos e).le)
  rw [Format.targetExponent, totalExponent] at he ⊢
  have hm : (m : ℚ) + 1 ≤ 2 ^ (m.log2 + 1) := by exact_mod_cast Nat.lt_log2_self
  refine ⟨le_max_right _ _, ?_, ?_⟩
  · rw [habs]
    calc y * 2 ^ e < 2 ^ (m.log2 + 1) * 2 ^ e := mul_lt_mul_of_pos_right (hhi.trans_le hm) (two_zpow_pos e)
      _ = 2 ^ (e + (m.log2 + 1 : ℕ)) := (two_zpow_add _ _).symm
      _ ≤ _ := two_zpow_le_iff.mpr (by push_cast; omega)
  · rcases le_or_gt (m.log2 + 1 + e - S.mantissaBits) S.minExponent with hle | hgt
    · exact .inl (max_eq_right hle)
    · right
      rw [max_eq_left hgt.le] at he ⊢
      rw [habs]
      have hm0 : m ≠ 0 := by
        rintro rfl
        rw [Nat.log2_zero] at he
        push_cast at he
        omega
      have hlog : (2 : ℚ) ^ m.log2 ≤ y := le_trans (by exact_mod_cast Nat.log2_self_le hm0) hlo
      calc (2 : ℚ) ^ (m.log2 + 1 + e - S.mantissaBits + S.mantissaBits - 1) = 2 ^ (e + m.log2) := by
            congr 1
            omega
        _ = 2 ^ m.log2 * 2 ^ e := two_zpow_add _ _
        _ ≤ y * 2 ^ e := mul_le_mul_of_nonneg_right hlog (two_zpow_pos e).le

theorem targetExponent_eq {m : ℕ} {e : ℤ} (hm : m ≠ 0) (he : S.minExponent ≤ e) (hlt : m < 2 ^ S.mantissaBits)
    (hle : e = S.minExponent ∨ 2 ^ (S.mantissaBits - 1) ≤ m) : S.targetExponent (totalExponent m e) = e := by
  have hpos := mantissaBits_pos S
  have hlog : m.log2 < S.mantissaBits := (Nat.log2_lt hm).mpr hlt
  rw [Format.targetExponent, totalExponent]
  rcases hle with rfl | hle
  · omega
  · have := (Nat.le_log2 hm).mpr hle
    omega

/-- A mantissa that has been rounded is shifted again only if it has become one digit longer. -/
theorem shiftToTargetExponent_rounded {n : ℕ} {t : ℤ} (ht : S.minExponent ≤ t) (hn : n ≤ 2 ^ S.mantissaBits)
    (hle : t = S.minExponent ∨ 2 ^ (S.mantissaBits - 1) ≤ n) :
    ∃ m e, (shiftToTargetExponent S n t .exact) = (⟨m, false, false⟩, e) ∧ (m : ℚ) * 2 ^ e = n * 2 ^ t ∧
      (m ≠ 0 → S.targetExponent (totalExponent m e) = e) := by
  have hpos := mantissaBits_pos S
  rcases hn.eq_or_lt with rfl | hlt
  · refine ⟨2 ^ (S.mantissaBits - 1), t + 1, ?_, ?_, fun hm => targetExponent_eq hm (by omega) ?_ (.inr le_rfl)⟩
    · have ht2 : S.targetExponent (totalExponent (2 ^ S.mantissaBits) t) - t = 1 := by
        rw [Format.targetExponent, totalExponent, Nat.log2_two_pow]
        omega
      have hodd : (2 ^ S.mantissaBits % 2 != 0) = false := by
        rw [Nat.pow_mod, Nat.mod_self, Nat.zero_pow hpos]
        rfl
      have hhalf : 2 ^ S.mantissaBits / 2 = 2 ^ (S.mantissaBits - 1) := by
        rw [← Nat.pow_sub_one (by norm_num) hpos.ne']
      rw [shiftToTargetExponent, shiftToExponent, ht2]
      change (ExtendedMantissa.shiftRightOne ⟨2 ^ S.mantissaBits, false, false⟩, t + 1) = _
      rw [ExtendedMantissa.shiftRightOne, hodd, hhalf]
      rfl
    · push_cast
      rw [zpow_add_one₀ two_ne_zero]
      obtain ⟨k, hk⟩ := Nat.exists_eq_succ_of_ne_zero hpos.ne'
      rw [hk, Nat.succ_sub_one, pow_succ]
      ring
    · exact Nat.pow_lt_pow_right (by norm_num) (by omega)
  · have hstay : S.targetExponent (totalExponent n t) ≤ t := by
      rcases eq_or_ne n 0 with rfl | hn0
      · rw [Format.targetExponent, totalExponent, Nat.log2_zero]
        omega
      · exact (targetExponent_eq hn0 ht hlt hle).le
    refine ⟨n, t, ?_, rfl, fun hn0 => targetExponent_eq hn0 ht hlt hle⟩
    have hk : (S.targetExponent (totalExponent n t) - t).toNat = 0 := by omega
    rw [shiftToTargetExponent, shiftToExponent, hk, Int.natCast_zero, add_zero]
    rfl

theorem mantissa_ofMantissaAndAccuracy (m : ℕ) (accuracy : Accuracy) :
    (ExtendedMantissa.ofMantissaAndAccuracy m accuracy).mantissa = m := by
  rcases accuracy with _ | _ | _ | _ <;> rfl

/-- A mantissa with a rest behind it is cut off at its last place and rounded. -/
theorem exists_rounded {m : ℕ} {e : ℤ} {accuracy : Accuracy} {y : ℚ}
    (hy : Represents (.ofMantissaAndAccuracy m accuracy) y) (he : e ≤ S.targetExponent (totalExponent m e)) :
    ∃ em t, shiftToTargetExponent S m e accuracy = (em, t) ∧ S.minExponent ≤ t ∧
      RoundsTo S (y * 2 ^ e) (em.roundedMantissa * 2 ^ t) ∧ em.roundedMantissa ≤ 2 ^ S.mantissaBits ∧
      (t = S.minExponent ∨ 2 ^ (S.mantissaBits - 1) ≤ em.roundedMantissa) := by
  obtain ⟨hlo, hhi⟩ := hy.bounds
  rw [mantissa_ofMantissaAndAccuracy] at hlo hhi
  have hplace := place_targetExponent he hlo hhi
  set t := S.targetExponent (totalExponent m e) with ht
  have hk : e + ((t - e).toNat : ℤ) = t := by omega
  have hpow : (2 : ℚ) ^ t = 2 ^ (t - e).toNat * 2 ^ e := by rw [← two_zpow_add, hk]
  have hnear := (hy.shiftRight (t - e).toNat).nearest
  have hq : y / 2 ^ (t - e).toNat = y * 2 ^ e / 2 ^ t := by
    rw [hpow, mul_div_mul_right _ _ (two_zpow_pos e).ne']
  rw [hq] at hnear
  have hy0 : 0 ≤ y * 2 ^ e := mul_nonneg ((Nat.cast_nonneg m).trans hlo) (two_zpow_pos e).le
  refine ⟨ExtendedMantissa.ofMantissaAndAccuracy m accuracy >>> (t - e).toNat, t, ?_, hplace.least,
    ⟨_, t, hplace, hnear, by push_cast; rfl⟩, ?_, hplace.le.imp_right fun hle => ?_⟩
  · simp only [shiftToTargetExponent, shiftToExponent, ← ht, hk]
  · have habs := (le_abs_self _).trans_lt hplace.abs_div_lt
    exact_mod_cast hnear.le_of_le (m := 2 ^ S.mantissaBits) (by push_cast; exact habs.le)
  · have hpos := mantissaBits_pos S
    have hge : (2 : ℚ) ^ (S.mantissaBits - 1) ≤ y * 2 ^ e / 2 ^ t := by
      rw [le_div_iff₀ (two_zpow_pos t), ← two_zpow_add]
      refine le_trans (le_of_eq ?_) (hle.trans_eq (abs_of_nonneg hy0))
      congr 1
      omega
    exact_mod_cast hnear.le_of_ge (m := 2 ^ (S.mantissaBits - 1)) (by push_cast; exact hge)

theorem roundWithAccuracy_result (sign : Sign) {m : ℕ} {e : ℤ} {accuracy : Accuracy} {y : ℚ}
    (hy : Represents (.ofMantissaAndAccuracy m accuracy) y) (he : e ≤ S.targetExponent (totalExponent m e)) :
    Result S ((sign.apply 1 : ℤ) * (y * 2 ^ e)) (roundWithAccuracy S sign m e accuracy) := by
  obtain ⟨em, t, hfirst, ht, hround, hle, hge⟩ := exists_rounded hy he
  obtain ⟨m', e', hsecond, hv, hc⟩ := shiftToTargetExponent_rounded ht hle hge
  have hsigned : RoundsTo S ((sign.apply 1 : ℤ) * (y * 2 ^ e)) ((sign.apply m' : ℤ) * 2 ^ e') := by
    rw [cast_apply sign m', mul_assoc, Int.cast_natCast, hv]
    cases sign with
    | positive => simpa [Sign.apply] using hround
    | negative => simpa [Sign.apply] using hround.neg
  simp only [roundWithAccuracy, hfirst, hsecond]
  split
  · rename_i hm
    rw [hm] at hsigned
    exact ⟨trivial, rfl, by cases sign <;> simpa [Sign.apply, value] using hsigned⟩
  · rename_i hm
    exact ⟨hc hm, rfl, hsigned⟩

theorem represents_exact (m : ℕ) : Represents (.ofMantissaAndAccuracy m .exact) m := rfl

/-- Digits are added at the end as long as there is room for them. -/
theorem round_result (sign : Sign) {m : ℕ} (hm : m ≠ 0) (e : ℤ) :
    Result S ((sign.apply m : ℤ) * 2 ^ e) (round S sign m e) := by
  set k := (e - S.targetExponent (totalExponent m e)).toNat with hk
  have htotal : totalExponent (m <<< k) (e - k) = totalExponent m e := by
    rw [totalExponent, totalExponent, log2_shiftLeft hm]
    push_cast
    ring
  have he : e - k ≤ S.targetExponent (totalExponent (m <<< k) (e - k)) := by
    rw [htotal]
    omega
  have hv : ((m <<< k : ℕ) : ℚ) * 2 ^ (e - k) = m * 2 ^ e := by
    rw [Nat.shiftLeft_eq]
    push_cast
    rw [mul_assoc, ← two_zpow_add, sub_add_cancel]
  have hr := roundWithAccuracy_result sign (represents_exact (m <<< k)) he
  rw [hv, ← mul_assoc, ← Int.cast_natCast, ← cast_apply] at hr
  exact hr

theorem RoundsTo.zero : RoundsTo S 0 0 :=
  ⟨0, S.minExponent, ⟨le_rfl, by rw [abs_zero]; exact two_zpow_pos _, .inl rfl⟩, by simpa using Nearest.self 0, by simp⟩

theorem normalize_result (n : ℤ) (e : ℤ) (zero : Sign) : Result S (n * 2 ^ e) (normalize S n e zero) := by
  rw [UnpackedFloat.normalize]
  rcases lt_trichotomy n 0 with hn | rfl | hn
  · have hc : compare n 0 = .lt := compare_lt_iff_lt.mpr hn
    have hr := round_result (S := S) .negative (m := (-n).toNat) (by omega) e
    have hv : Sign.apply .negative ((-n).toNat : ℤ) = n := by
      rw [Sign.apply, Int.toNat_of_nonneg (by omega), neg_neg]
    rw [hv] at hr
    rw [hc]
    exact hr
  · refine ⟨trivial, rfl, ?_⟩
    have hz : RoundsTo S (0 : ℚ) 0 := .zero
    simpa [value] using hz
  · have hc : compare n 0 = .gt := compare_gt_iff_gt.mpr hn
    have hr := round_result (S := S) .positive (m := n.toNat) (by omega) e
    have hv : Sign.apply .positive (n.toNat : ℤ) = n := Int.toNat_of_nonneg hn.le
    rw [hv] at hr
    rw [hc]
    exact hr

namespace Canonical

theorem place {sign : Sign} {m : ℕ} {e : ℤ} {hm : 0 < m} (h : Canonical S (.finite sign m e hm)) :
    Place S (value (.finite sign m e hm)) e := by
  have ht : S.targetExponent (totalExponent m e) = e := h
  have hp := place_targetExponent (S := S) ht.ge le_rfl (lt_add_one (m : ℚ))
  rw [ht] at hp
  cases sign with
  | positive => exact hp
  | negative => simpa [value, Sign.apply] using hp.neg

/-- A number that is in order stays as it is when it is rounded. -/
theorem roundsTo {u : UnpackedFloat} (h : Canonical S u) : RoundsTo S (value u) (value u) := by
  cases u with
  | finite sign m e hm =>
    refine ⟨sign.apply m, e, h.place, ?_, rfl⟩
    rw [value, mul_div_cancel_right₀ _ (two_zpow_pos e).ne']
    exact .self _
  | _ => exact .zero

theorem result {u : UnpackedFloat} (h : Canonical S u) (hf : u.isFinite = true) : Result S (value u) u :=
  ⟨h, hf, h.roundsTo⟩

end Canonical

theorem decreaseExponent_value (sign : Sign) (m : ℕ) {e t : ℤ} (h : t ≤ e) :
    ((sign.apply (decreaseExponent m e t).1 : ℤ) : ℚ) * 2 ^ t = (sign.apply m : ℤ) * 2 ^ e := by
  have hk : t + ((e - t).toNat : ℤ) = e := by omega
  rw [cast_apply, cast_apply sign m, decreaseExponent, Nat.shiftLeft_eq]
  push_cast
  rw [mul_assoc, mul_assoc, mul_assoc, ← two_zpow_add, hk]

section
variable {u v : UnpackedFloat}

theorem add_result (hu : Canonical S u) (hv : Canonical S v) (hfu : u.isFinite = true) (hfv : v.isFinite = true) :
    Result S (value u + value v) (add S u v) := by
  have hzero (sign : Sign) : value (.zero sign) = 0 := rfl
  cases u with
  | infinity _ => cases hfu
  | notANumber => cases hfu
  | zero s =>
    cases v with
    | infinity _ => cases hfv
    | notANumber => cases hfv
    | zero s' =>
      rw [hzero, hzero, add_zero]
      cases s <;> cases s' <;> exact ⟨trivial, rfl, .zero⟩
    | finite s' m' e' hm' =>
      rw [hzero, zero_add]
      exact hv.result rfl
  | finite s m e hm =>
    cases v with
    | infinity _ => cases hfv
    | notANumber => cases hfv
    | zero s' =>
      rw [hzero, add_zero]
      exact hu.result rfl
    | finite s' m' e' hm' =>
      have hr := normalize_result (S := S) (s.apply (decreaseExponent m e (min e e')).1 +
        s'.apply (decreaseExponent m' e' (min e e')).1) (min e e') .positive
      rw [Int.cast_add, add_mul, decreaseExponent_value s m (min_le_left _ _),
        decreaseExponent_value s' m' (min_le_right _ _)] at hr
      exact hr

theorem canonical_neg (hv : Canonical S v) : Canonical S v.neg := by
  cases v <;> exact hv

theorem apply_neg (sign : Sign) (n : ℤ) : (-sign).apply n = -sign.apply n := by
  cases sign with
  | negative => exact (neg_neg n).symm
  | positive => rfl

theorem value_neg (v : UnpackedFloat) : value v.neg = -value v := by
  cases v with
  | finite sign m e hm =>
    change (((-sign).apply m : ℤ) : ℚ) * 2 ^ e = -((sign.apply m : ℤ) * 2 ^ e)
    rw [apply_neg, Int.cast_neg, neg_mul]
  | _ => exact neg_zero.symm

/-- To subtract is to add the opposite. -/
theorem sub_eq_add (u v : UnpackedFloat) : UnpackedFloat.sub S u v = UnpackedFloat.add S u v.neg := by
  cases u <;> cases v <;>
    simp only [UnpackedFloat.sub, UnpackedFloat.add, UnpackedFloat.neg, apply_neg, sub_eq_add_neg]

theorem sub_result (hu : Canonical S u) (hv : Canonical S v) (hfu : u.isFinite = true) (hfv : v.isFinite = true) :
    Result S (value u - value v) (UnpackedFloat.sub S u v) := by
  have hfn : v.neg.isFinite = true := by
    cases v <;> exact hfv
  rw [sub_eq_add, sub_eq_add_neg, ← value_neg]
  exact add_result hu (canonical_neg hv) hfu hfn

end

/-- The product of the mantissas has no room left at its end, as one of them is complete or the other exponent is too
low for anything to be added. -/
theorem mul_result (hS : S.minExponent ≤ 0) {s s' : Sign} {m m' : ℕ} {e e' : ℤ} {hm : 0 < m} {hm' : 0 < m'}
    (h : Canonical S (.finite s m e hm)) (h' : Canonical S (.finite s' m' e' hm')) :
    Result S (value (.finite s m e hm) * value (.finite s' m' e' hm'))
      (UnpackedFloat.mul S (.finite s m e hm) (.finite s' m' e' hm')) := by
  have ht : S.targetExponent (totalExponent m e) = e := h
  have ht' : S.targetExponent (totalExponent m' e') = e' := h'
  have hlog : m.log2 ≤ (m * m').log2 :=
    (Nat.le_log2 (Nat.mul_pos hm hm').ne').mpr
      ((Nat.log2_self_le hm.ne').trans (Nat.le_mul_of_pos_right m hm'))
  have hlog' : m'.log2 ≤ (m * m').log2 :=
    (Nat.le_log2 (Nat.mul_pos hm hm').ne').mpr
      ((Nat.log2_self_le hm'.ne').trans (Nat.le_mul_of_pos_left m' hm))
  have he : e + e' ≤ S.targetExponent (totalExponent (m * m') (e + e')) := by
    rw [Format.targetExponent, totalExponent] at ht ht' ⊢
    omega
  have hr := roundWithAccuracy_result (s * s') (represents_exact (m * m')) he
  have hvalue : ((s * s').apply 1 : ℤ) * (((m * m' : ℕ) : ℚ) * 2 ^ (e + e')) =
      value (.finite s m e hm) * value (.finite s' m' e' hm') := by
    rw [value, value, zpow_add₀ two_ne_zero]
    cases s <;> cases s' <;> simp [Sign.apply] <;> ring
  rw [hvalue] at hr
  exact hr

/-- The rest of a division, as the digits behind the quotient. -/
theorem represents_accuracyOfFraction (q : ℕ) {rest den : ℕ} (h : rest < den) :
    Represents (.ofMantissaAndAccuracy q (accuracyOfFraction rest den)) (q + rest / den) := by
  have hden : (0 : ℚ) < den := by exact_mod_cast (Nat.zero_le rest).trans_lt h
  rw [accuracyOfFraction]
  split_ifs with hz
  · rw [hz]
    simp [Represents, ExtendedMantissa.ofMantissaAndAccuracy]
  · have hrest : (0 : ℚ) < rest / den := div_pos (by exact_mod_cast Nat.pos_of_ne_zero hz) hden
    have hone : (rest : ℚ) / den < 1 := (div_lt_one hden).mpr (by exact_mod_cast h)
    have hhalf : (rest : ℚ) / den - 1 / 2 = (2 * rest - den) / (2 * den) := by
      field_simp
    rcases lt_trichotomy (2 * rest) den with hlt | heq | hgt
    · have hc : compare (2 * rest) den = .lt := compare_lt_iff_lt.mpr hlt
      have hcast : (2 * rest : ℚ) < den := by exact_mod_cast hlt
      have := div_neg_of_neg_of_pos (sub_neg.mpr hcast) (by linarith : (0 : ℚ) < 2 * den)
      rw [hc]
      constructor <;> dsimp only [ExtendedMantissa.ofMantissaAndAccuracy] <;> linarith
    · have hc : compare (2 * rest) den = .eq := compare_eq_iff_eq.mpr heq
      have hcast : (2 * rest : ℚ) = den := by exact_mod_cast heq
      rw [sub_eq_zero.mpr hcast, zero_div] at hhalf
      rw [hc]
      change (q : ℚ) + rest / den = q + 1 / 2
      linarith
    · have hc : compare (2 * rest) den = .gt := compare_gt_iff_gt.mpr hgt
      have hcast : (den : ℚ) < 2 * rest := by exact_mod_cast hgt
      have := div_pos (sub_pos.mpr hcast) (by linarith : (0 : ℚ) < 2 * den)
      rw [hc]
      constructor <;> dsimp only [ExtendedMantissa.ofMantissaAndAccuracy] <;> linarith

/-- A quotient has one binary digit less than the difference of the lengths at the most. -/
theorem log2_div_ge {m d k : ℕ} (hd : d ≠ 0) (h : d.log2 + 1 + k ≤ m.log2) (hm : m ≠ 0) : k ≤ (m / d).log2 := by
  have hle : 2 ^ k ≤ m / d := by
    rw [Nat.le_div_iff_mul_le (Nat.pos_of_ne_zero hd)]
    calc 2 ^ k * d ≤ 2 ^ k * 2 ^ (d.log2 + 1) := Nat.mul_le_mul_left _ Nat.lt_log2_self.le
      _ = 2 ^ (d.log2 + 1 + k) := by rw [← pow_add, add_comm]
      _ ≤ 2 ^ m.log2 := Nat.pow_le_pow_right (by norm_num) h
      _ ≤ m := Nat.log2_self_le hm
  exact (Nat.le_log2 (Nat.two_pow_pos k |>.trans_le hle).ne').mpr hle

theorem apply_div (s s' : Sign) :
    (((s / s').apply 1 : ℤ) : ℚ) = ((s.apply 1 : ℤ) : ℚ) / ((s'.apply 1 : ℤ) : ℚ) := by
  cases s <;> cases s'
  · exact (div_self (by norm_num [Sign.apply])).symm
  · exact (div_one _).symm
  · change ((-1 : ℤ) : ℚ) = ((1 : ℤ) : ℚ) / ((-1 : ℤ) : ℚ)
    norm_num
  · exact (div_one _).symm

/-- A quotient is drawn out until it has digits enough, or until its last place is the last there is. -/
theorem div_digits {m m' : ℕ} {e e' t : ℤ} (hm : 0 < m) (hm' : 0 < m')
    (ht : t = min (e - e') (S.targetExponent (totalExponent m e - totalExponent m' e'))) :
    t ≤ S.targetExponent (totalExponent (m <<< (e - e' - t).toNat / m') t) := by
  have hlog : (m <<< (e - e' - t).toNat).log2 = m.log2 + (e - e' - t).toNat := log2_shiftLeft hm.ne' _
  have hsm : m <<< (e - e' - t).toNat ≠ 0 := by
    rw [Nat.shiftLeft_eq]
    exact (Nat.mul_pos hm (Nat.two_pow_pos _)).ne'
  have hpos := mantissaBits_pos S
  rw [Format.targetExponent] at ht ⊢
  rw [totalExponent] at ht ⊢
  rw [totalExponent] at ht
  by_cases hmin : t ≤ S.minExponent
  · omega
  · have hdigits : (S.mantissaBits - 1) ≤ (m <<< (e - e' - t).toNat / m').log2 := by
      refine log2_div_ge hm'.ne' ?_ hsm
      omega
    omega

theorem div_value {s s' : Sign} {m m' k : ℕ} {e e' t : ℤ} (hm : 0 < m) (hm' : 0 < m') (hk : t + k = e - e') :
    ((s / s').apply 1 : ℤ) * (((m <<< k : ℕ) : ℚ) / m' * 2 ^ t) =
      value (.finite s m e hm) / value (.finite s' m' e' hm') := by
  have hpow : (2 : ℚ) ^ e = 2 ^ k * 2 ^ t * 2 ^ e' := by
    rw [← two_zpow_add, hk, ← zpow_add₀ two_ne_zero, sub_add_cancel]
  have hm0 : (m' : ℚ) ≠ 0 := by exact_mod_cast hm'.ne'
  have he0 := (two_zpow_pos e').ne'
  rw [value, value, cast_apply s, cast_apply s', hpow, Nat.shiftLeft_eq]
  push_cast
  rw [apply_div]
  field_simp

theorem div_result {s s' : Sign} {m m' : ℕ} {e e' : ℤ} (hm : 0 < m) (hm' : 0 < m') :
    Result S (value (.finite s m e hm) / value (.finite s' m' e' hm'))
      (UnpackedFloat.div S (.finite s m e hm) (.finite s' m' e' hm')) := by
  set t := min (e - e') (S.targetExponent (totalExponent m e - totalExponent m' e')) with ht
  set k := (e - e' - t).toNat with hk
  have hfrac := represents_accuracyOfFraction (m <<< k / m') (Nat.mod_lt (m <<< k) hm')
  have hr := roundWithAccuracy_result (s / s') hfrac (div_digits hm hm' ht)
  have hdiv : ((m <<< k / m' : ℕ) : ℚ) + ((m <<< k % m' : ℕ) : ℚ) / m' = (m <<< k : ℕ) / m' := by
    have hm0 : (m' : ℚ) ≠ 0 := by exact_mod_cast hm'.ne'
    rw [eq_div_iff hm0, add_mul, div_mul_cancel₀ _ hm0]
    exact_mod_cast Nat.div_add_mod' (m <<< k) m'
  have hkt : t + (k : ℤ) = e - e' := by omega
  rw [hdiv, div_value hm hm' hkt] at hr
  exact hr

end Flotation.Rounding
