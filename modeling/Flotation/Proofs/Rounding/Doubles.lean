import Flotation.Proofs.Doubles
import Flotation.Proofs.Rounding.Packing

/-! The arithmetic of doubles as arithmetic on rationals, rounded: what a sum, a difference and a quotient come to,
and when they come to nothing finite any more. -/
namespace Flotation

namespace Double
open Float.Model Float.Model.UnpackedFloat Rounding
variable {x y z : Float} {q r : ℚ}

/-- The value of a finite double; others count as zero. -/
def value (x : Float) : ℚ := Rounding.value x.toModel.unpack

/-- Rounded to the digits of a double. -/
abbrev RoundsTo (q r : ℚ) : Prop := Rounding.RoundsTo Format.binary64 q r

theorem mantissaBits_binary64 : Format.binary64.mantissaBits = 53 := rfl

theorem minExponent_binary64 : Format.binary64.minExponent = -1074 := rfl

theorem canonical (x : Float) : Canonical Format.binary64 x.toModel.unpack := unpack_canonical _

theorem unpack_pack_eq (u : UnpackedFloat) :
    (Float.Model.pack u).unpack = UnpackedFloat.unpack Format.binary64 (UnpackedFloat.pack Format.binary64 u) := rfl

/-- A number that a double stands for: it is rounded, and infinite if it is too great then. -/
inductive Stands (q : ℚ) (x : Float) : Prop where
  | near (finite : x.isFinite = true) (rounds : RoundsTo q (value x))
  | far (r : ℚ) (rounds : RoundsTo q r) (great : 2 ^ (1024 : ℤ) ≤ |r|)
      (infinite : x.toModel.unpack = .infinity (if 0 < r then .positive else .negative))

theorem stands_of_result {u : UnpackedFloat} (h : Result Format.binary64 q u)
    (hx : x.toModel = Float.Model.pack u) : Stands q x := by
  rcases lt_or_ge |Rounding.value u| (2 ^ bound Format.binary64) with hlt | hge
  · have hu : x.toModel.unpack = u := by
      rw [hx, unpack_pack_eq, unpack_pack_of_lt (by decide) h.canonical h.finite hlt]
    refine .near ?_ ?_
    · change x.toModel.unpack.isFinite = true
      rw [hu]
      exact h.finite
    · rw [RoundsTo, value, hu]
      exact h.rounds
  · refine .far _ h.rounds hge ?_
    rw [hx, unpack_pack_eq, unpack_pack_of_ge (by decide) h.canonical hge]

theorem stands_add (hx : x.isFinite = true) (hy : y.isFinite = true) : Stands (value x + value y) (x + y) :=
  stands_of_result (add_result (canonical x) (canonical y) hx hy) rfl

theorem stands_sub (hx : x.isFinite = true) (hy : y.isFinite = true) : Stands (value x - value y) (x - y) :=
  stands_of_result (sub_result (canonical x) (canonical y) hx hy) rfl

theorem stands_div (hx : x.isFinite = true) (hy : y.isFinite = true) (h : value y ≠ 0) :
    Stands (value x / value y) (x / y) := by
  have hxy : (x / y).toModel = Float.Model.pack (UnpackedFloat.div Format.binary64 x.toModel.unpack
    y.toModel.unpack) := rfl
  rcases finite_cases hy with ⟨sign', hu'⟩ | ⟨sign', m', e', hm', hu'⟩
  · exact absurd (congrArg Rounding.value hu') h
  · refine stands_of_result ?_ hxy
    rcases finite_cases hx with ⟨sign, hu⟩ | ⟨sign, m, e, hm, hu⟩ <;> rw [value, value, hu, hu']
    · have hz : RoundsTo 0 0 := .zero
      have hq : Rounding.value (.zero sign) / Rounding.value (.finite sign' m' e' hm') = 0 := zero_div _
      exact ⟨trivial, rfl, hq.symm ▸ hz⟩
    · exact div_result hm hm'

theorem stands_mul (hx : x.isFinite = true) (hy : y.isFinite = true) : Stands (value x * value y) (x * y) := by
  have hxy : (x * y).toModel = Float.Model.pack (UnpackedFloat.mul Format.binary64 x.toModel.unpack
    y.toModel.unpack) := rfl
  have hcx := canonical x
  have hcy := canonical y
  have hz : RoundsTo 0 0 := .zero
  have hzero (sign : Sign) : Rounding.value (.zero sign) = 0 := rfl
  refine stands_of_result ?_ hxy
  rcases finite_cases hx with ⟨sign, hu⟩ | ⟨sign, m, e, hm, hu⟩
  · rw [value, hu, hzero, zero_mul]
    rcases finite_cases hy with ⟨sign', hu'⟩ | ⟨sign', m', e', hm', hu'⟩ <;> rw [hu'] <;> exact ⟨trivial, rfl, hz⟩
  · rcases finite_cases hy with ⟨sign', hu'⟩ | ⟨sign', m', e', hm', hu'⟩ <;> rw [value, value, hu, hu']
    · rw [hzero, mul_zero]
      exact ⟨trivial, rfl, hz⟩
    · rw [hu] at hcx
      rw [hu'] at hcy
      exact mul_result (by decide) hcx hcy

theorem abs_value_lt (x : Float) : |value x| < 2 ^ (1024 : ℤ) := by
  by_contra hge
  have hp := unpack_pack_of_ge (by decide) (canonical x) (not_lt.mp hge)
  rw [← unpack_pack_eq, pack_unpack] at hp
  refine hge ?_
  rw [value, hp]
  exact (abs_zero (α := ℚ)).trans_lt (two_zpow_pos _)

theorem onGrid_value (x : Float) : OnGrid Format.binary64 (value x) := (canonical x).roundsTo.onGrid

theorem compare_eq_value (hx : x.isFinite = true) (hy : y.isFinite = true) :
    x.toModel.unpack.compare y.toModel.unpack = some (compare (value x) (value y)) :=
  compare_eq (canonical x) (canonical y) hx hy

theorem lt_iff (hx : x.isFinite = true) (hy : y.isFinite = true) : x < y ↔ value x < value y := by
  change decide ((x.toModel.unpack.compare y.toModel.unpack == some .lt) = true) = true ↔ _
  rw [decide_eq_true_iff, compare_eq_value hx hy, ← compare_lt_iff_lt]
  cases compare (value x) (value y) <;> decide

theorem le_iff (hx : x.isFinite = true) (hy : y.isFinite = true) : x ≤ y ↔ value x ≤ value y := by
  change decide ((x.toModel.unpack.compare y.toModel.unpack).any (·.isLE) = true) = true ↔ _
  rw [decide_eq_true_iff, compare_eq_value hx hy, ← compare_le_iff_le]
  cases compare (value x) (value y) <;> decide

theorem isFinite_of_infinite {sign : Sign} (h : x.toModel.unpack = .infinity sign) : x.isFinite = false := by
  change x.toModel.unpack.isFinite = false
  rw [h]
  rfl

theorem ne_infinity (h : x.isFinite = true) (sign : Sign) : x.toModel.unpack ≠ .infinity sign := by
  intro hi
  rw [isFinite_of_infinite hi] at h
  cases h

/-- A finite number makes no difference to an infinite one. -/
theorem infinite_add {sign : Sign} (hx : x.toModel.unpack = .infinity sign) (hy : y.isFinite = true) :
    (x + y).toModel.unpack = .infinity sign := by
  have hxy : (x + y).toModel = Float.Model.pack (UnpackedFloat.add Format.binary64 x.toModel.unpack
    y.toModel.unpack) := rfl
  rw [hxy, unpack_pack_eq, hx]
  rcases finite_cases hy with ⟨sign', hu⟩ | ⟨sign', m, e, hm, hu⟩ <;> rw [hu] <;>
    exact unpack_packedInfinity sign

theorem lt_infinite (hx : x.isFinite = true) (hy : y.toModel.unpack = .infinity .positive) : x < y := by
  change decide ((x.toModel.unpack.compare y.toModel.unpack == some .lt) = true) = true
  rw [decide_eq_true_iff, hy]
  rcases finite_cases hx with ⟨sign, hu⟩ | ⟨sign, m, e, hm, hu⟩ <;> rw [hu] <;> cases sign <;> rfl

theorem not_lt_of_infinite (hx : x.toModel.unpack = .infinity .positive) (hy : y.isFinite = true) : ¬ x < y := by
  change ¬ decide ((x.toModel.unpack.compare y.toModel.unpack == some .lt) = true) = true
  rw [decide_eq_true_iff, hx]
  rcases finite_cases hy with ⟨sign, hu⟩ | ⟨sign, m, e, hm, hu⟩ <;> rw [hu] <;> cases sign <;> exact Bool.false_ne_true

/-- Not below a finite number are the finite ones that are not, and the infinity above. -/
theorem le_iff_of_isFinite (hx : x.isFinite = true) :
    x ≤ y ↔ y.toModel.unpack = .infinity .positive ∨ y.isFinite = true ∧ value x ≤ value y := by
  cases hf : y.isFinite with
  | true =>
    rw [le_iff hx hf, or_iff_right (ne_infinity hf _), and_iff_right rfl]
  | false =>
    change decide ((x.toModel.unpack.compare y.toModel.unpack).any (·.isLE) = true) = true ↔ _
    rw [decide_eq_true_iff]
    rcases not_finite_cases hf with ⟨sign, hu⟩ | hu
    · cases sign with
      | positive =>
        refine iff_of_true ?_ (.inl hu)
        rcases finite_cases hx with ⟨s, hv⟩ | ⟨s, m, e, hm, hv⟩ <;> rw [hu, hv] <;> cases s <;> rfl
      | negative =>
        refine iff_of_false ?_ (by simp [hu])
        rcases finite_cases hx with ⟨s, hv⟩ | ⟨s, m, e, hm, hv⟩ <;> rw [hu, hv] <;> cases s <;>
          exact Bool.false_ne_true
    · refine iff_of_false ?_ (by simp [hu])
      rcases finite_cases hx with ⟨s, hv⟩ | ⟨s, m, e, hm, hv⟩ <;> rw [hu, hv] <;> exact Bool.false_ne_true

theorem lt_iff_of_isFinite (hx : x.isFinite = true) :
    x < y ↔ y.toModel.unpack = .infinity .positive ∨ y.isFinite = true ∧ value x < value y := by
  cases hf : y.isFinite with
  | true =>
    rw [lt_iff hx hf, or_iff_right (ne_infinity hf _), and_iff_right rfl]
  | false =>
    refine ⟨fun h => .inl ?_, fun h => lt_infinite hx (h.resolve_right (by simp))⟩
    change decide ((x.toModel.unpack.compare y.toModel.unpack == some .lt) = true) = true at h
    rw [decide_eq_true_iff] at h
    rcases not_finite_cases hf with ⟨sign, hu⟩ | hu
    · cases sign with
      | positive => exact hu
      | negative =>
        rcases finite_cases hx with ⟨s, hv⟩ | ⟨s, m, e, hm, hv⟩ <;> rw [hu, hv] at h <;> cases s <;> cases h
    · rcases finite_cases hx with ⟨s, hv⟩ | ⟨s, m, e, hm, hv⟩ <;> rw [hu, hv] at h <;> cases h

/-- Not below a finite number, and so not below any that is. -/
theorem not_lt_of_le (hy : y.isFinite = true) (h : y ≤ x) : ¬ x < y := by
  rcases (le_iff_of_isFinite hy).mp h with hi | ⟨hx, hle⟩
  · exact not_lt_of_infinite hi hy
  · rw [lt_iff hx hy]
    exact not_lt.mpr hle

theorem zero_le_iff : 0.0 ≤ x ↔ x.toModel.unpack = .infinity .positive ∨ x.isFinite = true ∧ 0 ≤ value x :=
  le_iff_of_isFinite rfl

theorem value_of_not_finite (h : x.isFinite = false) : value x = 0 := by
  rcases not_finite_cases h with ⟨sign, hu⟩ | hu <;> rw [value, hu] <;> rfl

namespace Stands

theorem rounds (h : Stands q x) (hx : x.isFinite = true) : RoundsTo q (value x) := by
  rcases h with ⟨-, hr⟩ | ⟨r, -, -, hi⟩
  · exact hr
  · exact absurd hi (ne_infinity hx _)

/-- What is great and not below zero has the infinity above zero for it. -/
theorem cases_of_nonneg (h : Stands q x) (hq : 0 ≤ q) :
    (x.isFinite = true ∧ RoundsTo q (value x) ∧ 0 ≤ value x) ∨
      x.toModel.unpack = .infinity .positive ∧ ∃ r, RoundsTo q r ∧ 2 ^ (1024 : ℤ) ≤ r := by
  have hz : OnGrid Format.binary64 0 := RoundsTo.zero.onGrid
  rcases h with ⟨hf, hr⟩ | ⟨r, hr, hg, hi⟩
  · exact .inl ⟨hf, hr, hr.ge_of_ge hz hq⟩
  · have hr0 := hr.ge_of_ge hz hq
    rw [abs_of_nonneg hr0] at hg
    rw [if_pos ((two_zpow_pos _).trans_le hg)] at hi
    exact .inr ⟨hi, r, hr, hg⟩

/-- What is not below a double has the infinity above zero for it if it is too great. -/
theorem cases_of_le (h : Stands q y) (hq : value x ≤ q) :
    y.isFinite = true ∧ RoundsTo q (value y) ∨ y.toModel.unpack = .infinity .positive := by
  rcases h with ⟨hf, hr⟩ | ⟨r, hr, hg, hi⟩
  · exact .inl ⟨hf, hr⟩
  · have hxr := hr.ge_of_ge (onGrid_value x) hq
    have hlo := (abs_lt.mp (abs_value_lt x)).1
    rcases le_abs.mp hg with hpos | hneg
    · rw [if_pos ((two_zpow_pos _).trans_le hpos)] at hi
      exact .inr hi
    · linarith

/-- A number that is not below a double does not become so. -/
theorem le (h : Stands q y) (hx : x.isFinite = true) (hq : value x ≤ q) : x ≤ y := by
  refine (le_iff_of_isFinite hx).mpr ?_
  rcases h.cases_of_le hq with ⟨hf, hr⟩ | hi
  · exact .inr ⟨hf, hr.ge_of_ge (onGrid_value x) hq⟩
  · exact .inl hi

/-- A number between two doubles does not get out from between them. -/
theorem between (h : Stands q y) (hx : value x ≤ q) (hz : q ≤ value z) :
    y.isFinite = true ∧ value x ≤ value y ∧ value y ≤ value z := by
  rcases h with ⟨hf, hr⟩ | ⟨r, hr, hg, -⟩
  · exact ⟨hf, hr.ge_of_ge (onGrid_value x) hx, hr.le_of_le (onGrid_value z) hz⟩
  · have hlo := hr.ge_of_ge (onGrid_value x) hx
    have hhi := hr.le_of_le (onGrid_value z) hz
    have hlt : |r| < 2 ^ (1024 : ℤ) :=
      (abs_le_max_abs_abs hlo hhi).trans_lt (max_lt (abs_value_lt x) (abs_value_lt z))
    exact absurd hg (not_le.mpr hlt)

theorem zero_le (h : Stands q x) (hq : 0 ≤ q) : 0.0 ≤ x := h.le rfl hq

/-- A double reaches a power of two if the number does but for half a unit of the last place. -/
theorem below_iff (h : Stands q x) (hq : 0 ≤ q) {e : ℤ} (hlo : -1021 ≤ e) (hhi : e ≤ 1024) :
    (x.isFinite = true ∧ value x < 2 ^ e) ↔ q < 2 ^ e - 2 ^ (e - 53) / 2 := by
  have hiff {r : ℚ} (hr : RoundsTo q r) : r < 2 ^ e ↔ q < 2 ^ e - 2 ^ (e - 53) / 2 :=
    hr.lt_two_zpow_iff (e := e) (by rw [mantissaBits_binary64, minExponent_binary64]; omega)
  rcases h.cases_of_nonneg hq with ⟨hf, hr, -⟩ | ⟨hi, r, hr, hg⟩
  · rw [← hiff hr]
    exact and_iff_right hf
  · rw [← hiff hr]
    exact iff_of_false (fun hf => ne_infinity hf.1 _ hi) (not_lt.mpr ((two_zpow_le_iff.mpr hhi).trans hg))

end Stands

/-- What is added does not lead below a number that has been reached. -/
theorem le_add_of_le {d : Float} (hx : x.isFinite = true) (h : x ≤ y) (hd : d.isFinite = true) (h0 : 0 ≤ value d) :
    x ≤ y + d := by
  rcases (le_iff_of_isFinite hx).mp h with hi | ⟨hy, hxy⟩
  · exact (le_iff_of_isFinite hx).mpr (.inl (infinite_add hi hd))
  · exact (stands_add hy hd).le hx (hxy.trans (le_add_of_nonneg_right h0))

/-- The exponent of the last place of a double. -/
def lastPlace (x : Float) : ℤ :=
  match x.toModel.unpack with
  | .finite _ _ exponent _ => exponent
  | _ => -1074

/-- How far it is from the magnitude of a double to the next one. -/
def gap (x : Float) : ℚ := 2 ^ lastPlace x

theorem place_value (x : Float) : Place Format.binary64 (value x) (lastPlace x) := by
  have hz : Place Format.binary64 0 (-1074) := ⟨le_rfl, abs_zero (α := ℚ) ▸ two_zpow_pos _, .inl rfl⟩
  have hc := canonical x
  rw [value, lastPlace]
  cases hu : x.toModel.unpack with
  | finite sign m e hm =>
    rw [hu] at hc
    exact hc.place
  | _ => exact hz

theorem toNat_unpackMantissa (b : BitVec Format.binary64.numBits) : (unpackMantissa b).toNat = b.toNat % 2 ^ 52 := by
  simp [unpackMantissa]

theorem toNat_unpackExponent (b : BitVec Format.binary64.numBits) :
    (unpackExponent b).toNat = (b.toNat >>> 52) % 2048 := by
  simp [unpackExponent]

theorem unpackSign_negative (b : BitVec Format.binary64.numBits) :
    (Sign.ofBitVec (unpackSign b) == .negative) = ((b.toNat >>> 63) % 2 == 1) := by
  have hn : (unpackSign b).toNat = (b.toNat >>> 63) % 2 := by simp [unpackSign]
  rw [← hn]
  generalize unpackSign b = v
  revert v
  decide

end Double

namespace Binary64
open Float.Model Float.Model.UnpackedFloat Rounding

/-- The value of a finite double; others count as zero. -/
def value : Binary64 → ℚ
  | .finite negative mantissa exponent => (if negative then -(mantissa : ℚ) else mantissa) * 2 ^ exponent
  | _ => 0

theorem value_finite (sign : Sign) (m : ℕ) (e : ℤ) :
    (Binary64.finite (sign == .negative) m e).value = (sign.apply m : ℤ) * 2 ^ e := by
  cases sign <;> simp [value, Sign.apply]

/-- Both ways to take a double apart lead to the same value. -/
theorem value_ofFloat (x : Float) : (ofFloat x).value = Double.value x := by
  have hbits : ofFloat x = .ofBits x.toModel.toBits.toBitVec.toNat := rfl
  have hunpack : x.toModel.unpack = UnpackedFloat.unpack Format.binary64 x.toModel.toBits.toBitVec := rfl
  rw [hbits, Double.value, hunpack]
  generalize x.toModel.toBits.toBitVec = b
  change BitVec Format.binary64.numBits at b
  have hm := Double.toNat_unpackMantissa b
  have he := Double.toNat_unpackExponent b
  have hs := Double.unpackSign_negative b
  have hi : unpackExponent b = -1#_ ↔ (b.toNat >>> 52) % 2048 = 2047 := by
    rw [← he, ← BitVec.toNat_inj]
    rfl
  have hz : unpackExponent b = 0#_ ↔ (b.toNat >>> 52) % 2048 = 0 := by
    rw [← he, ← BitVec.toNat_inj]
    rfl
  rw [ofBits, UnpackedFloat.unpack]
  simp only [Nat.one_shiftLeft, ← hs]
  by_cases h1 : unpackExponent b = -1#_
  · rw [if_pos (hi.mp h1), if_pos h1]
    split <;> split <;> rfl
  · rw [if_neg (mt hi.mpr h1), if_neg h1]
    by_cases h2 : unpackExponent b = 0#_
    · rw [if_pos (hz.mp h2), if_pos h2, value_finite, ← hm]
      split
      · rename_i h3
        rw [h3]
        cases Sign.ofBitVec (unpackSign b) <;> simp [Rounding.value, Sign.apply]
      · rw [Rounding.value, h2]
        rfl
    · rw [if_neg (mt hz.mpr h2), if_neg h2, value_finite, Rounding.value, toNat_hidden_append, hm, he]
      rfl

theorem fraction_eq (m : ℕ) (e : ℤ) : ((fraction m e).1 : ℚ) / (fraction m e).2 = m * 2 ^ e := by
  rw [fraction, Nat.shiftLeft_eq, Nat.shiftLeft_eq, one_mul]
  push_cast
  rw [div_eq_iff (by positivity), mul_assoc, ← zpow_natCast, ← zpow_natCast, ← zpow_add₀ two_ne_zero]
  congr 2
  omega

/-- The whole part is that of the value. A negative number has none. -/
theorem wholePart_eq_floor (x : Binary64) : x.wholePart = ⌊x.value⌋₊ := by
  cases x with
  | nan => exact Nat.floor_zero.symm
  | infinite _ => exact Nat.floor_zero.symm
  | finite negative m e =>
    cases negative with
    | false =>
      change (fraction m e).1 / (fraction m e).2 = _
      rw [← Nat.floor_div_eq_div (K := ℚ), fraction_eq]
      rfl
    | true =>
      refine (Nat.floor_of_nonpos (mul_nonpos_of_nonpos_of_nonneg ?_ (two_zpow_pos e).le)).symm
      simp

end Binary64
end Flotation
