import Mathlib
import Flotation.Scalar

/-! Doubles to which a zero is added, and what becomes of a sum or a product with something in it that is no
number. The rules of arithmetic are about numbers taken apart, so that what is left alone has to survive being put
together again. -/
namespace Flotation.Double
open Float.Model Float.Model.UnpackedFloat

/-- A word is made of its sign, its exponent and its mantissa. -/
private theorem packComponents_unpack (b : BitVec Format.binary64.numBits) :
    packComponents Format.binary64 (Sign.ofBitVec (unpackSign b)) (unpackExponent b) (unpackMantissa b) = b := by
  have hs (v : BitVec 1) : (Sign.ofBitVec v).toBitVec = v := by
    revert v
    decide
  rw [packComponents, hs]
  ext i hi
  simp [unpackSign, unpackExponent, unpackMantissa]
  grind

/-- A subnormal number has fewer bits than its mantissa has room for. -/
private theorem pack_subnormal (sign : Sign) (mantissa : BitVec 52) (h : 0 < mantissa.toNat) :
    UnpackedFloat.pack Format.binary64 (.finite sign mantissa.toNat (-1074) h) =
      packComponents Format.binary64 sign 0#_ mantissa := by
  have hl : ¬ mantissa.toNat.log2 + 1 = Format.binary64.mantissaBits := by
    have hlt := (Nat.log2_lt (Nat.ne_of_gt h)).mpr mantissa.isLt
    have hm : Format.binary64.mantissaBits = 53 := rfl
    omega
  have hb : ((-1074 : Int) + Format.binary64.exponentBias + Format.binary64.mantissaBitsWithoutImplicit).toNat = 1 :=
    rfl
  rw [UnpackedFloat.pack]
  simp only [hb]
  rw [if_neg (by decide), if_neg hl, BitVec.ofNat_toNat, BitVec.setWidth_eq]

/-- A normal number has one bit more than its mantissa has room for. -/
private theorem pack_normal (sign : Sign) (exponent : BitVec 11) (mantissa : BitVec 52)
    (hi : exponent ≠ -1#_) (h : 0 < (1#1 ++ mantissa).toNat) :
    UnpackedFloat.pack Format.binary64 (.finite sign (1#1 ++ mantissa).toNat ((exponent.toNat : Int) - 1075) h) =
      packComponents Format.binary64 sign exponent mantissa := by
  have hm : (1#1 ++ mantissa).toNat = 2 ^ 52 + mantissa.toNat := by
    rw [BitVec.toNat_append, ← Nat.shiftLeft_add_eq_or_of_lt mantissa.isLt]
    rfl
  have hlt : (exponent.toNat) + 1 < 2 ^ 11 := by
    have he : exponent.toNat ≠ 2047 := fun he => hi (BitVec.eq_of_toNat_eq he)
    have := exponent.isLt
    omega
  have hl : (2 ^ 52 + mantissa.toNat).log2 + 1 = Format.binary64.mantissaBits := by
    have hlo : 52 ≤ (2 ^ 52 + mantissa.toNat).log2 := (Nat.le_log2 (by omega)).mpr (Nat.le_add_right _ _)
    have hhi : (2 ^ 52 + mantissa.toNat).log2 < 53 := (Nat.log2_lt (by omega)).mpr (by have := mantissa.isLt; omega)
    have hb : Format.binary64.mantissaBits = 53 := rfl
    omega
  have hb : ((exponent.toNat : Int) - 1075 + Format.binary64.exponentBias +
      Format.binary64.mantissaBitsWithoutImplicit).toNat = exponent.toNat := by
    have hbias : (Format.binary64.exponentBias : Int) = 1023 := rfl
    have hbits : (Format.binary64.mantissaBitsWithoutImplicit : Int) = 52 := rfl
    omega
  have he : BitVec.ofNat 52 (2 ^ 52 + mantissa.toNat) = mantissa := by
    apply BitVec.eq_of_toNat_eq
    rw [BitVec.toNat_ofNat, Nat.add_mod_left, Nat.mod_eq_of_lt mantissa.isLt]
  rw [UnpackedFloat.pack]
  simp only [hb, hm]
  rw [if_neg (by omega), if_pos hl, he, BitVec.ofNat_toNat, BitVec.setWidth_eq]

private theorem pack_unpack_word {b : BitVec Format.binary64.numBits} (hv : Format.binary64.Valid b) :
    UnpackedFloat.pack Format.binary64 (UnpackedFloat.unpack Format.binary64 b) = b := by
  have hc := packComponents_unpack b
  rw [UnpackedFloat.unpack]
  -- The highest exponent is that of the infinities and the NaN, the lowest that of zeros and subnormal numbers.
  by_cases hi : unpackExponent b = -1#_
  · by_cases hm : unpackMantissa b = 0#_
    · rw [if_pos hi, if_pos hm, UnpackedFloat.pack, packedInfinity]
      rw [hi, hm] at hc
      exact hc
    · rw [if_pos hi, if_neg hm, UnpackedFloat.pack]
      exact (hv.eq_packedNaN hi hm).symm
  · by_cases hz : unpackExponent b = 0#_
    · by_cases hm : unpackMantissa b = 0#_
      · rw [if_neg hi, if_pos hz, dif_pos hm, UnpackedFloat.pack, packedZero]
        rw [hz, hm] at hc
        exact hc
      · rw [if_neg hi, if_pos hz, dif_neg hm]
        rw [hz] at hc ⊢
        exact (pack_subnormal _ _ _).trans hc
    · rw [if_neg hi, if_neg hz]
      exact (pack_normal _ _ _ hi _).trans hc

/-- Packing a double that has been unpacked gives it back, for there is one NaN only. -/
theorem pack_unpack (m : Float.Model) : Float.Model.pack m.unpack = m := by
  obtain ⟨bits, hv⟩ := m
  have hp : UnpackedFloat.pack Format.binary64 (UnpackedFloat.unpack Format.binary64 bits.toBitVec) =
      bits.toBitVec := pack_unpack_word hv
  simp only [Float.Model.pack, Float.Model.unpack, hp]

private theorem unpack_pack_zero (sign : Sign) : (Float.Model.pack (.zero sign)).unpack = .zero sign := by
  cases sign <;> rfl

/-- One of the two zeros. -/
def IsZero (x : Float) : Prop := ∃ sign, x.toModel.unpack = .zero sign

/-- The same number. The two zeros are one number. -/
def Same (x y : Float) : Prop := x = y ∨ IsZero x ∧ IsZero y

variable {x y z : Float}

theorem finite_cases (h : x.isFinite = true) :
    IsZero x ∨ ∃ sign mantissa exponent hm, x.toModel.unpack = .finite sign mantissa exponent hm := by
  have hf : x.toModel.unpack.isFinite = true := h
  rw [IsZero]
  cases hu : x.toModel.unpack with
  | infinity sign =>
    rw [hu] at hf
    cases hf
  | notANumber =>
    rw [hu] at hf
    cases hf
  | zero sign => exact .inl ⟨sign, rfl⟩
  | finite sign mantissa exponent hm => exact .inr ⟨sign, mantissa, exponent, hm, rfl⟩

theorem not_finite_cases (h : x.isFinite = false) :
    (∃ sign, x.toModel.unpack = .infinity sign) ∨ x.toModel.unpack = .notANumber := by
  have hf : x.toModel.unpack.isFinite = false := h
  cases hu : x.toModel.unpack with
  | infinity sign => exact .inl ⟨sign, rfl⟩
  | notANumber => exact .inr rfl
  | zero sign =>
    rw [hu] at hf
    cases hf
  | finite sign mantissa exponent hm =>
    rw [hu] at hf
    cases hf

theorem isNaN_iff : x.isNaN = true ↔ x.toModel.unpack = .notANumber := by
  change x.toModel.unpack.isNaN = true ↔ _
  cases x.toModel.unpack <;> simp [UnpackedFloat.isNaN]

namespace Same

theorem trans (h : Same x y) (k : Same y z) : Same x z := by
  rcases h with rfl | ⟨hx, hy⟩
  · exact k
  · rcases k with rfl | ⟨-, hz⟩
    · exact .inr ⟨hx, hy⟩
    · exact .inr ⟨hx, hz⟩

theorem isFinite_eq (h : Same x y) : x.isFinite = y.isFinite := by
  rcases h with rfl | ⟨⟨s, hx⟩, t, hy⟩
  · rfl
  · change x.toModel.unpack.isFinite = y.toModel.unpack.isFinite
    rw [hx, hy]
    rfl

/-- The same finite number compares equal. -/
theorem beq (h : Same x y) (hy : y.isFinite = true) : (x == y) = true := by
  change (x.toModel.unpack.compare y.toModel.unpack == some .eq) = true
  rcases h with rfl | ⟨⟨s, hx⟩, t, hz⟩
  -- A NaN is not equal to itself, so it does not do that both are one double.
  · rcases finite_cases hy with ⟨sign, hu⟩ | ⟨sign, mantissa, exponent, hm, hu⟩ <;> rw [hu]
    · rfl
    · cases sign <;> simp [UnpackedFloat.compare]
  · rw [hx, hz]
    rfl

end Same

/-- No NaN compares equal to anything. -/
theorem beq_of_isNaN (h : x.isNaN = true) (y : Float) : (x == y) = false := by
  change (x.toModel.unpack.compare y.toModel.unpack == some .eq) = false
  rw [isNaN_iff.mp h]
  rfl

private theorem same_of_pack {u : UnpackedFloat} (hx : x.toModel = Float.Model.pack u)
    (hu : u = y.toModel.unpack ∨ (∃ sign, u = .zero sign) ∧ IsZero y) : Same x y := by
  rcases hu with rfl | ⟨⟨sign, rfl⟩, hy⟩
  · rw [pack_unpack] at hx
    exact .inl (congrArg Float.ofModel hx)
  · refine .inr ⟨⟨sign, ?_⟩, hy⟩
    rw [hx]
    exact unpack_pack_zero sign

/-- A zero added to a finite number makes no difference. -/
theorem same_add_zero (hx : x.isFinite = true) (hz : IsZero z) : Same (x + z) x := by
  obtain ⟨sign, hz⟩ := hz
  refine same_of_pack (u := .add Format.binary64 x.toModel.unpack z.toModel.unpack) rfl ?_
  rcases finite_cases hx with ⟨own, hu⟩ | ⟨own, mantissa, exponent, hm, hu⟩ <;> rw [hu, hz]
  · exact .inr ⟨by cases own <;> cases sign <;> exact ⟨_, rfl⟩, own, hu⟩
  · left
    rw [UnpackedFloat.add] <;> simp

/-- Nor does one that is taken away. -/
theorem same_sub_zero (hx : x.isFinite = true) (hz : IsZero z) : Same (x - z) x := by
  obtain ⟨sign, hz⟩ := hz
  refine same_of_pack (u := .sub Format.binary64 x.toModel.unpack z.toModel.unpack) rfl ?_
  rcases finite_cases hx with ⟨own, hu⟩ | ⟨own, mantissa, exponent, hm, hu⟩ <;> rw [hu, hz]
  · exact .inr ⟨by cases own <;> cases sign <;> exact ⟨_, rfl⟩, own, hu⟩
  · left
    rw [UnpackedFloat.sub] <;> simp

/-- A finite number is nothing if it is taken no times. -/
theorem isZero_mul_zero (hx : x.isFinite = true) : IsZero (x * 0.0) := by
  have hs : (x * 0.0).toModel = Float.Model.pack (.mul Format.binary64 x.toModel.unpack (.zero .positive)) := rfl
  rcases finite_cases hx with ⟨own, hu⟩ | ⟨own, mantissa, exponent, hm, hu⟩
  all_goals
    refine ⟨own * .positive, ?_⟩
    rw [hs, hu, UnpackedFloat.mul]
    exact unpack_pack_zero _

private theorem isNaN_of_pack {u : UnpackedFloat} (hx : x.toModel = Float.Model.pack u) (hu : u = .notANumber) :
    x.isNaN = true := by
  rw [isNaN_iff, hx, hu]
  rfl

/-- What is not finite leaves no number if it is taken no times. -/
theorem isNaN_mul_zero (hx : x.isFinite = false) : (x * 0.0).isNaN = true := by
  refine isNaN_of_pack (u := .mul Format.binary64 x.toModel.unpack (.zero .positive)) rfl ?_
  rcases not_finite_cases hx with ⟨sign, hu⟩ | hu <;> rw [hu, UnpackedFloat.mul]

theorem isNaN_mul_left (hx : x.isNaN = true) (y : Float) : (x * y).isNaN = true := by
  refine isNaN_of_pack (u := .mul Format.binary64 x.toModel.unpack y.toModel.unpack) rfl ?_
  rw [isNaN_iff.mp hx, UnpackedFloat.mul]

theorem isNaN_sub_left (hx : x.isNaN = true) (y : Float) : (x - y).isNaN = true := by
  refine isNaN_of_pack (u := .sub Format.binary64 x.toModel.unpack y.toModel.unpack) rfl ?_
  rw [isNaN_iff.mp hx, UnpackedFloat.sub]

theorem isNaN_add_right (hy : y.isNaN = true) (x : Float) : (x + y).isNaN = true := by
  refine isNaN_of_pack (u := .add Format.binary64 x.toModel.unpack y.toModel.unpack) rfl ?_
  rw [isNaN_iff.mp hy]
  cases x.toModel.unpack <;> rfl

end Flotation.Double
