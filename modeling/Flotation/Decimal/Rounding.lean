/-! Rounding of quotients to whole numbers, and the decimal digits of natural numbers. -/
namespace Flotation.Decimal

/-- The whole number nearest to a quotient; a half goes to the even neighbour. -/
def roundHalfEven (num den : Nat) : Nat :=
  let whole := num / den
  let rest := num % den
  if 2 * rest < den then whole
  else if den < 2 * rest then whole + 1
  else whole + whole % 2

/-- A quotient that is whole is not changed. -/
theorem roundHalfEven_mul (n : Nat) {den : Nat} (h : 0 < den) :
    roundHalfEven (n * den) den = n := by
  simp [roundHalfEven, Nat.mul_div_cancel _ h, h]

/-- The rounded value is within half a unit of the quotient. -/
theorem roundHalfEven_near (num : Nat) {den : Nat} (h : 0 < den) :
    2 * num ≤ 2 * (roundHalfEven num den * den) + den ∧
      2 * (roundHalfEven num den * den) ≤ 2 * num + den := by
  have hd := Nat.div_add_mod num den
  have hr := Nat.mod_lt num h
  rw [Nat.mul_comm] at hd
  unfold roundHalfEven
  dsimp only
  split
  · omega
  · split
    · rw [Nat.add_mul]
      omega
    · rcases Nat.mod_two_eq_zero_or_one (num / den) with he | he <;> rw [he]
      · simp only [Nat.add_zero]
        omega
      · rw [Nat.add_mul]
        omega

def powerOfTen (n : Nat) : Nat := Nat.pow 10 n

/-- Decimal digits, the first of them not zero unless the number is. -/
def digits (n : Nat) : List Char := Nat.toDigits 10 n

/-- Decimal digits with zeros in front, at least as many as asked for. -/
def paddedDigits (count n : Nat) : List Char :=
  List.replicate (count - (digits n).length) '0' ++ digits n

end Flotation.Decimal
