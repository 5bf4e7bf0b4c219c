import Mathlib

/-! Mantissas that are cut off. Of the bits that a mantissa loses, the first is kept and the others are kept
together, and that is enough to round it to the nearest whole number. -/
namespace Flotation.Rounding
open Float.Model Float.Model.UnpackedFloat

/-- The whole number is nearest to the quotient, and even if another one is as near. -/
structure Nearest (x : ℚ) (n : ℤ) : Prop where
  near : |n - x| ≤ 1 / 2
  even : |n - x| = 1 / 2 → Even n

namespace Nearest
variable {x : ℚ} {n : ℤ}

theorem of_lt (h : |n - x| < 1 / 2) : Nearest x n := ⟨h.le, fun he => absurd he h.ne⟩

theorem self (n : ℤ) : Nearest n n := of_lt (by norm_num)

theorem neg (h : Nearest x n) : Nearest (-x) (-n) := by
  have he : |((-n : ℤ) : ℚ) - -x| = |n - x| := by
    rw [Int.cast_neg, neg_sub_neg, abs_sub_comm]
  exact ⟨he ▸ h.near, fun ht => (h.even (he ▸ ht)).neg⟩

end Nearest

/-- What a mantissa with its two further bits says of a number: its whole part, and on which side of the half it
has a rest. -/
def Represents (em : ExtendedMantissa) (x : ℚ) : Prop :=
  match em.roundBit, em.stickyBit with
  | false, false => x = em.mantissa
  | false, true => em.mantissa < x ∧ x < em.mantissa + 1 / 2
  | true, false => x = em.mantissa + 1 / 2
  | true, true => em.mantissa + 1 / 2 < x ∧ x < em.mantissa + 1

namespace Represents
variable {em : ExtendedMantissa} {x : ℚ}

theorem bounds (h : Represents em x) : (em.mantissa : ℚ) ≤ x ∧ x < em.mantissa + 1 := by
  obtain ⟨m, round, sticky⟩ := em
  cases round <;> cases sticky <;> simp only [Represents] at h <;> constructor <;> linarith

theorem nearest (h : Represents em x) : Nearest x em.roundedMantissa := by
  obtain ⟨m, round, sticky⟩ := em
  cases round with
  | false =>
    have hn : ((ExtendedMantissa.mk m false sticky).roundedMantissa : ℤ) = m := by cases sticky <;> rfl
    rw [hn]
    apply Nearest.of_lt
    cases sticky <;> simp only [Represents] at h <;> rw [Int.cast_natCast, abs_lt] <;> constructor <;> linarith
  | true =>
    cases sticky with
    | false =>
      -- A half goes to the even neighbour.
      simp only [Represents] at h
      change Nearest x ((m + m % 2 : ℕ) : ℤ)
      rcases Nat.mod_two_eq_zero_or_one m with he | ho
      · rw [he, h]
        exact ⟨by norm_num, fun _ => by exact_mod_cast Nat.even_iff.mpr he⟩
      · rw [ho, h]
        refine ⟨by norm_num [add_sub_add_left_eq_sub], fun _ => ?_⟩
        exact_mod_cast (Nat.odd_iff.mpr ho).add_one
    | true =>
      simp only [Represents] at h
      apply Nearest.of_lt
      change |(((m + 1 : ℕ) : ℤ) : ℚ) - x| < 1 / 2
      push_cast
      rw [abs_lt]
      constructor <;> linarith

theorem shiftRightOne (h : Represents em x) : Represents em.shiftRightOne (x / 2) := by
  obtain ⟨m, round, sticky⟩ := em
  have hm : ((m % 2 : ℕ) : ℚ) + 2 * ((m / 2 : ℕ) : ℚ) = m := by exact_mod_cast Nat.mod_add_div m 2
  rcases Nat.mod_two_eq_zero_or_one m with he | ho
  · have hb : (m % 2 != 0) = false := by rw [he]; rfl
    rw [he, Nat.cast_zero] at hm
    cases round <;> cases sticky <;>
      simp only [Represents, ExtendedMantissa.shiftRightOne, hb, Bool.or_false, Bool.or_true] at h ⊢
    · linarith
    all_goals constructor <;> linarith
  · have hb : (m % 2 != 0) = true := by rw [ho]; rfl
    rw [ho, Nat.cast_one] at hm
    cases round <;> cases sticky <;>
      simp only [Represents, ExtendedMantissa.shiftRightOne, hb, Bool.or_false, Bool.or_true] at h ⊢
    · linarith
    all_goals constructor <;> linarith

theorem shiftRight (h : Represents em x) (k : ℕ) : Represents (em >>> k) (x / 2 ^ k) := by
  change Represents (k.repeat ExtendedMantissa.shiftRightOne em) _
  induction k with
  | zero => simpa [Nat.repeat] using h
  | succ k ih =>
    rw [Nat.repeat, pow_succ, ← div_div]
    exact ih.shiftRightOne

end Represents
end Flotation.Rounding
