import Flotation.Proofs.Rounding.Operations

/-! Numbers in words. A word is unpacked to a number that is in order, and such a number survives being packed
unless it is too great for the exponents of the format. -/
namespace Flotation.Rounding
open Float.Model Float.Model.UnpackedFloat
variable {S : Format}

/-- The sign and the mantissa of numbers that are in order. -/
theorem Canonical.bounds {sign : Sign} {m : ℕ} {e : ℤ} {hm : 0 < m} (h : Canonical S (.finite sign m e hm)) :
    S.minExponent ≤ e ∧ m < 2 ^ S.mantissaBits ∧ (e = S.minExponent ∨ 2 ^ (S.mantissaBits - 1) ≤ m) := by
  have hpos := mantissaBits_pos S
  have ht : S.targetExponent (totalExponent m e) = e := h
  rw [Format.targetExponent, totalExponent] at ht
  refine ⟨ht ▸ le_max_right _ _, (Nat.log2_lt hm.ne').mp (by omega), ?_⟩
  rcases le_or_gt (m.log2 + 1 + e - S.mantissaBits) S.minExponent with hle | hgt
  · exact .inl (by omega)
  · exact .inr ((Nat.le_log2 hm.ne').mp (by omega))

/-- The lowest exponent of a format is that of a word in which the exponent is one. -/
theorem minExponent_add (S : Format) :
    S.minExponent + S.exponentBias + S.mantissaBitsWithoutImplicit = 1 := by
  have hb : 1 ≤ 2 ^ (S.exponentBits - 1) := Nat.one_le_two_pow
  rw [Format.minExponent, Format.exponentBias, Format.mantissaBits]
  push_cast [hb]
  ring

theorem two_pow_mantissaBits (S : Format) : 2 ^ S.mantissaBits = 2 * 2 ^ S.mantissaBitsWithoutImplicit := by
  rw [Format.mantissaBits, pow_add, pow_one]

theorem mantissaBits_sub_one (S : Format) : S.mantissaBits - 1 = S.mantissaBitsWithoutImplicit :=
  Nat.add_sub_cancel_left ..

theorem toNat_hidden_append {w : ℕ} (v : BitVec w) : (1#1 ++ v).toNat = 2 ^ w + v.toNat := by
  rw [BitVec.toNat_append, ← Nat.shiftLeft_add_eq_or_of_lt v.isLt, Nat.shiftLeft_eq, BitVec.toNat_ofNat,
    Nat.one_mod_two_pow one_pos, one_mul]

theorem toNat_pos_of_ne_zero {w : ℕ} {v : BitVec w} (h : v ≠ 0#w) : 0 < v.toNat :=
  Nat.pos_of_ne_zero fun h0 => h (BitVec.eq_of_toNat_eq (by simpa using h0))

theorem unpack_canonical (b : BitVec S.numBits) : Canonical S (UnpackedFloat.unpack S b) := by
  have hmin := minExponent_add S
  have hlt := (unpackMantissa b).isLt
  have hpow := two_pow_mantissaBits S
  rw [UnpackedFloat.unpack]
  by_cases hi : unpackExponent b = -1#_
  · simp only [if_pos hi]
    split <;> trivial
  · simp only [if_neg hi]
    by_cases hz : unpackExponent b = 0#_
    · simp only [if_pos hz]
      split
      · trivial
      · rename_i hm
        have he : ((unpackExponent b).toNat : ℤ) - (S.exponentBias + S.mantissaBitsWithoutImplicit) + 1 =
            S.minExponent := by
          rw [hz, BitVec.toNat_zero]
          omega
        exact targetExponent_eq (toNat_pos_of_ne_zero hm).ne' he.ge (by omega) (.inl he)
    · simp only [if_neg hz]
      have hpos := toNat_pos_of_ne_zero hz
      have hm := toNat_hidden_append (unpackMantissa b)
      exact targetExponent_eq (by omega) (by omega) (by omega) (.inr (by rw [mantissaBits_sub_one]; omega))

@[simp] theorem unpackSign_packComponents {sign : Sign} {exponent : BitVec S.exponentBits}
    {mantissa : BitVec S.mantissaBitsWithoutImplicit} :
    unpackSign (packComponents S sign exponent mantissa) = sign.toBitVec := by
  ext i hi
  simp [unpackSign, packComponents, BitVec.getLsbD_append]
  grind

theorem ofBitVec_toBitVec (sign : Sign) : Sign.ofBitVec sign.toBitVec = sign := by
  cases sign <;> rfl

theorem unpack_packedInfinity (sign : Sign) :
    UnpackedFloat.unpack S (packedInfinity S sign) = .infinity sign := by
  rw [packedInfinity, UnpackedFloat.unpack]
  simp only [unpackExponent_packComponents, unpackMantissa_packComponents, unpackSign_packComponents,
    ofBitVec_toBitVec, if_true]
  exact if_pos rfl

theorem zero_ne_neg_one (S : Format) : 0#S.exponentBits ≠ -1#_ := by
  intro heq
  have := congrArg BitVec.toNat heq
  rw [BitVec.neg_one_eq_allOnes, BitVec.toNat_allOnes, BitVec.toNat_zero] at this
  have := Nat.one_lt_two_pow S.he.ne'
  omega

theorem unpack_packedZero (sign : Sign) : UnpackedFloat.unpack S (packedZero S sign) = .zero sign := by
  rw [packedZero, UnpackedFloat.unpack]
  simp only [unpackExponent_packComponents, unpackMantissa_packComponents, unpackSign_packComponents,
    ofBitVec_toBitVec]
  exact (if_neg (zero_ne_neg_one S)).trans ((if_pos rfl).trans (dif_pos rfl))

theorem value_positive {m : ℕ} {e : ℤ} (hm : 0 < m) : 0 < value (.finite .positive m e hm) :=
  mul_pos (Int.cast_pos.mpr (Int.natCast_pos.mpr hm)) (two_zpow_pos e)

theorem value_negative {m : ℕ} {e : ℤ} (hm : 0 < m) : value (.finite .negative m e hm) < 0 :=
  mul_neg_of_neg_of_pos (Int.cast_lt_zero.mpr (Int.neg_neg_of_pos (Int.natCast_pos.mpr hm))) (two_zpow_pos e)

theorem abs_value (sign : Sign) {m : ℕ} {e : ℤ} (hm : 0 < m) : |value (.finite sign m e hm)| = m * 2 ^ e := by
  have h0 : (0 : ℚ) ≤ m * 2 ^ e := mul_nonneg (Nat.cast_nonneg m) (two_zpow_pos e).le
  cases sign with
  | positive => exact abs_of_nonneg h0
  | negative =>
    change |((-(m : ℤ) : ℤ) : ℚ) * 2 ^ e| = _
    rw [Int.cast_neg, neg_mul, abs_neg]
    exact abs_of_nonneg h0

section
variable {sign : Sign} {m : ℕ} {e : ℤ} {hm : 0 < m}

/-- All exponents of a format are used up by what is less than this power of two. -/
theorem overflow_iff (hS : 1 < S.exponentBits) (h : Canonical S (.finite sign m e hm)) :
    2 ^ S.exponentBits ≤ (e + S.exponentBias + S.mantissaBitsWithoutImplicit).toNat + 1 ↔
      2 ^ ((S.exponentBias : ℤ) + 1) ≤ |value (.finite sign m e hm)| := by
  obtain ⟨hmin, hlt, hle⟩ := h.bounds
  have hbias : S.exponentBias + 1 = 2 ^ (S.exponentBits - 1) := Nat.sub_add_cancel Nat.one_le_two_pow
  have hbits : 2 ^ S.exponentBits = 2 * (S.exponentBias + 1) := by
    rw [hbias, ← pow_succ', Nat.sub_add_cancel S.he]
  have hpos : 1 ≤ S.exponentBias := by
    have : 2 ^ 1 ≤ 2 ^ (S.exponentBits - 1) := Nat.pow_le_pow_right (by norm_num) (by omega)
    omega
  have hone := minExponent_add S
  rw [abs_value, hbits]
  constructor
  · intro ho
    have hm' : 2 ^ S.mantissaBitsWithoutImplicit ≤ m := mantissaBits_sub_one S ▸ hle.resolve_left (by omega)
    calc (2 : ℚ) ^ ((S.exponentBias : ℤ) + 1) ≤ 2 ^ (e + S.mantissaBitsWithoutImplicit) :=
          two_zpow_le_iff.mpr (by omega)
      _ = 2 ^ S.mantissaBitsWithoutImplicit * 2 ^ e := two_zpow_add _ _
      _ ≤ m * 2 ^ e := mul_le_mul_of_nonneg_right (by exact_mod_cast hm') (two_zpow_pos e).le
  · contrapose!
    intro ho
    calc (m : ℚ) * 2 ^ e < 2 ^ S.mantissaBits * 2 ^ e :=
          mul_lt_mul_of_pos_right (by exact_mod_cast hlt) (two_zpow_pos e)
      _ = 2 ^ (e + S.mantissaBits) := (two_zpow_add _ _).symm
      _ ≤ 2 ^ ((S.exponentBias : ℤ) + 1) := two_zpow_le_iff.mpr (by rw [Format.mantissaBits]; push_cast; omega)

theorem pack_of_overflow (h : 2 ^ S.exponentBits ≤ (e + S.exponentBias + S.mantissaBitsWithoutImplicit).toNat + 1) :
    UnpackedFloat.pack S (.finite sign m e hm) = packedInfinity S sign := by
  rw [UnpackedFloat.pack]
  exact if_pos h

theorem finite_congr {m' : ℕ} {e' : ℤ} {hm' : 0 < m'} (h : m = m') (he : e = e') :
    UnpackedFloat.finite sign m e hm = .finite sign m' e' hm' := by
  subst h
  subst he
  rfl

/-- A number with all its digits is packed without the first. -/
theorem unpack_normal (hlo : 2 ^ S.mantissaBitsWithoutImplicit ≤ m) (hhi : m < 2 ^ S.mantissaBits) {biased : ℕ}
    (hb : 0 < biased) (hlt : biased + 1 < 2 ^ S.exponentBits)
    (he : e + S.exponentBias + S.mantissaBitsWithoutImplicit = biased) :
    UnpackedFloat.unpack S (packComponents S sign (BitVec.ofNat _ biased) (BitVec.ofNat _ m)) =
      .finite sign m e hm := by
  have hnat : (BitVec.ofNat S.exponentBits biased).toNat = biased := by
    rw [BitVec.toNat_ofNat, Nat.mod_eq_of_lt (by omega)]
  have hi : BitVec.ofNat S.exponentBits biased ≠ -1#_ := by
    intro heq
    have := congrArg BitVec.toNat heq
    rw [hnat, BitVec.neg_one_eq_allOnes, BitVec.toNat_allOnes] at this
    omega
  have hz : BitVec.ofNat S.exponentBits biased ≠ 0#_ := by
    intro heq
    have := congrArg BitVec.toNat heq
    rw [hnat, BitVec.toNat_zero] at this
    omega
  rw [UnpackedFloat.unpack]
  simp only [unpackExponent_packComponents, unpackMantissa_packComponents, unpackSign_packComponents,
    ofBitVec_toBitVec, if_neg hi, if_neg hz]
  have hpow := two_pow_mantissaBits S
  refine finite_congr ?_ (by omega)
  rw [toNat_hidden_append, BitVec.toNat_ofNat, Nat.mod_eq_sub_mod hlo, Nat.mod_eq_of_lt (by omega)]
  omega

/-- A number that lacks some of its digits has the lowest exponent. -/
theorem unpack_subnormal (hlt : m < 2 ^ S.mantissaBitsWithoutImplicit) :
    UnpackedFloat.unpack S (packComponents S sign 0#_ (BitVec.ofNat _ m)) =
      .finite sign m S.minExponent hm := by
  have hone := minExponent_add S
  have hnat : (BitVec.ofNat S.mantissaBitsWithoutImplicit m).toNat = m := by
    rw [BitVec.toNat_ofNat, Nat.mod_eq_of_lt hlt]
  have hz : BitVec.ofNat S.mantissaBitsWithoutImplicit m ≠ 0#_ := by
    intro heq
    have := congrArg BitVec.toNat heq
    rw [hnat, BitVec.toNat_zero] at this
    omega
  have hi := zero_ne_neg_one S
  rw [UnpackedFloat.unpack]
  simp only [unpackExponent_packComponents, unpackMantissa_packComponents, unpackSign_packComponents,
    ofBitVec_toBitVec, if_neg hi, if_true, dif_neg hz]
  exact finite_congr hnat (by rw [BitVec.toNat_zero]; omega)

theorem unpack_pack_finite (h : Canonical S (.finite sign m e hm))
    (hlt : ¬ 2 ^ S.exponentBits ≤ (e + S.exponentBias + S.mantissaBitsWithoutImplicit).toNat + 1) :
    UnpackedFloat.unpack S (UnpackedFloat.pack S (.finite sign m e hm)) = .finite sign m e hm := by
  obtain ⟨hmin, hhi, hlo⟩ := h.bounds
  have hone := minExponent_add S
  rw [mantissaBits_sub_one] at hlo
  rw [UnpackedFloat.pack]
  simp only [if_neg hlt]
  by_cases hn : m.log2 + 1 = S.mantissaBits
  · have hlog : m.log2 = S.mantissaBitsWithoutImplicit := by
      have := mantissaBits_sub_one S
      omega
    rw [if_pos hn]
    exact unpack_normal (hlog ▸ Nat.log2_self_le hm.ne') hhi (by omega) (by omega) (by omega)
  · rw [if_neg hn]
    have hsmall : m < 2 ^ S.mantissaBitsWithoutImplicit := by
      have hl : m.log2 < S.mantissaBits := (Nat.log2_lt hm.ne').mpr hhi
      have := mantissaBits_sub_one S
      exact (Nat.log2_lt hm.ne').mp (by omega)
    obtain rfl : e = S.minExponent := hlo.resolve_right (not_le.mpr hsmall)
    exact unpack_subnormal hsmall

end

/-- The greatest exponent of a power of two that a format does not have any more. -/
def bound (S : Format) : ℤ := S.exponentBias + 1

theorem unpack_pack_of_lt {u : UnpackedFloat} (hS : 1 < S.exponentBits) (h : Canonical S u) (hf : u.isFinite = true)
    (hlt : |value u| < 2 ^ bound S) : UnpackedFloat.unpack S (UnpackedFloat.pack S u) = u := by
  cases u with
  | infinity _ => cases hf
  | notANumber => cases hf
  | zero sign => exact unpack_packedZero sign
  | finite sign m e hm => exact unpack_pack_finite h fun ho => hlt.not_ge ((overflow_iff hS h).mp ho)

theorem unpack_pack_of_ge {u : UnpackedFloat} (hS : 1 < S.exponentBits) (h : Canonical S u)
    (hge : 2 ^ bound S ≤ |value u|) :
    UnpackedFloat.unpack S (UnpackedFloat.pack S u) = .infinity (if 0 < value u then .positive else .negative) := by
  cases u with
  | finite sign m e hm =>
    rw [pack_of_overflow ((overflow_iff hS h).mpr hge), unpack_packedInfinity]
    cases sign with
    | positive => rw [if_pos (value_positive hm)]
    | negative => rw [if_neg (value_negative hm).not_gt]
  | _ => exact absurd hge (not_le.mpr (by simpa [value] using two_zpow_pos (bound S)))

theorem compare_neg_neg (x y : ℚ) : compare (-x) (-y) = (compare x y).swap := by
  rcases lt_trichotomy x y with h | rfl | h
  · rw [compare_lt_iff_lt.mpr h, compare_gt_iff_gt.mpr (neg_lt_neg h)]
    rfl
  · rw [compare_eq_iff_eq.mpr rfl, compare_eq_iff_eq.mpr rfl]
    rfl
  · rw [compare_gt_iff_gt.mpr h, compare_lt_iff_lt.mpr (neg_lt_neg h)]
    rfl

section
variable {sign sign' : Sign} {m m' : ℕ} {e e' : ℤ} {hm : 0 < m} {hm' : 0 < m'}

/-- Of two numbers that are in order, the one with the greater exponent is greater. -/
theorem Canonical.lt_of_exponent_lt (h : Canonical S (.finite sign m e hm))
    (h' : Canonical S (.finite sign' m' e' hm')) (hlt : e < e') : (m : ℚ) * 2 ^ e < m' * 2 ^ e' := by
  obtain ⟨hmin, hhi, -⟩ := h.bounds
  obtain ⟨-, -, hlo⟩ := h'.bounds
  have hpos := mantissaBits_pos S
  have hlo := hlo.resolve_left (by omega)
  calc (m : ℚ) * 2 ^ e < 2 ^ S.mantissaBits * 2 ^ e :=
        mul_lt_mul_of_pos_right (by exact_mod_cast hhi) (two_zpow_pos e)
    _ = 2 ^ (e + S.mantissaBits) := (two_zpow_add _ _).symm
    _ ≤ 2 ^ (e' + (S.mantissaBits - 1 : ℕ)) := two_zpow_le_iff.mpr (by omega)
    _ = 2 ^ (S.mantissaBits - 1) * 2 ^ e' := two_zpow_add _ _
    _ ≤ m' * 2 ^ e' := mul_le_mul_of_nonneg_right (by exact_mod_cast hlo) (two_zpow_pos e').le

theorem Canonical.compare_eq (h : Canonical S (.finite sign m e hm)) (h' : Canonical S (.finite sign' m' e' hm')) :
    compare ((m : ℚ) * 2 ^ e) (m' * 2 ^ e') = (compare e e').then (compare m m') := by
  rcases lt_trichotomy e e' with hlt | rfl | hgt
  · rw [compare_lt_iff_lt.mpr (h.lt_of_exponent_lt h' hlt), compare_lt_iff_lt.mpr hlt]
    rfl
  · have hpos := two_zpow_pos e
    rw [compare_eq_iff_eq.mpr rfl, Ordering.eq_then]
    rcases lt_trichotomy m m' with hlt | rfl | hgt
    · rw [compare_lt_iff_lt.mpr hlt, compare_lt_iff_lt.mpr (mul_lt_mul_of_pos_right (by exact_mod_cast hlt) hpos)]
    · rw [compare_eq_iff_eq.mpr rfl, compare_eq_iff_eq.mpr rfl]
    · rw [compare_gt_iff_gt.mpr hgt, compare_gt_iff_gt.mpr (mul_lt_mul_of_pos_right (by exact_mod_cast hgt) hpos)]
  · rw [compare_gt_iff_gt.mpr (h'.lt_of_exponent_lt h hgt), compare_gt_iff_gt.mpr hgt]
    rfl

end

/-- Finite numbers that are in order compare as their values do. -/
theorem compare_eq {u v : UnpackedFloat} (hu : Canonical S u) (hv : Canonical S v) (hfu : u.isFinite = true)
    (hfv : v.isFinite = true) : u.compare v = some (compare (value u) (value v)) := by
  have hneg {m : ℕ} {e : ℤ} (hm : 0 < m) : value (.finite .negative m e hm) = -(m * 2 ^ e) := by
    rw [value, Sign.apply, Int.cast_neg, neg_mul]
    rfl
  cases u with
  | infinity _ => cases hfu
  | notANumber => cases hfu
  | zero s =>
    cases v with
    | infinity _ => cases hfv
    | notANumber => cases hfv
    | zero s' => rfl
    | finite s' m' e' hm' =>
      cases s' with
      | positive => exact congrArg some (compare_lt_iff_lt.mpr (value_positive hm')).symm
      | negative => exact congrArg some (compare_gt_iff_gt.mpr (value_negative hm')).symm
  | finite s m e hm =>
    cases v with
    | infinity _ => cases hfv
    | notANumber => cases hfv
    | zero s' =>
      cases s with
      | positive => exact congrArg some (compare_gt_iff_gt.mpr (value_positive hm)).symm
      | negative => exact congrArg some (compare_lt_iff_lt.mpr (value_negative hm)).symm
    | finite s' m' e' hm' =>
      cases s <;> cases s'
      · rw [hneg, hneg, compare_neg_neg, hu.compare_eq hv]
        rfl
      · exact congrArg some (compare_lt_iff_lt.mpr ((value_negative hm).trans (value_positive hm'))).symm
      · exact congrArg some (compare_gt_iff_gt.mpr ((value_negative hm').trans (value_positive hm))).symm
      · exact congrArg some (hu.compare_eq hv).symm

end Flotation.Rounding
