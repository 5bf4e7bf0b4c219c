import Flotation.Decimal.Fixed

/-! The characters of fixed notation. -/
namespace Flotation.Decimal

/-- The characters that a number in fixed notation is written with, the words for what is not finite included. -/
def Numeral (c : Char) : Prop := c.isDigit = true ∨ c ∈ ['-', '.', 'n', 'a', 'i', 'f']

instance (c : Char) : Decidable (Numeral c) := inferInstanceAs (Decidable (_ ∨ _))

/-- The characters of a word are numerals if all of them are found to be. -/
theorem numeral_of_mem_word {word : List Char} (hall : word.all (fun c => decide (Numeral c)) = true) {c : Char}
    (h : c ∈ word) : Numeral c := of_decide_eq_true (List.all_eq_true.mp hall c h)

theorem numeral_of_mem_digits {n : Nat} {c : Char} (h : c ∈ digits n) : Numeral c :=
  .inl (Nat.isDigit_of_mem_toDigits (by decide) (by decide) h)

theorem numeral_of_mem_paddedDigits {count n : Nat} {c : Char} (h : c ∈ paddedDigits count n) : Numeral c := by
  rcases List.mem_append.mp h with h | h
  · rw [List.eq_of_mem_replicate h]
    decide
  · exact numeral_of_mem_digits h

theorem numeral_of_mem_sign {negative : Bool} {c : Char} (h : c ∈ sign negative) : Numeral c := by
  cases negative with
  | false => cases h
  | true => exact numeral_of_mem_word (by decide) h

/-- A point is all that is put between the digits. -/
theorem numeral_of_mem_assemble {whole fraction : List Char} (hw : ∀ c ∈ whole, Numeral c)
    (hf : ∀ c ∈ fraction, Numeral c) {c : Char} (h : c ∈ assemble whole fraction) : Numeral c := by
  rw [assemble] at h
  split at h
  · exact hw c h
  · rw [List.mem_append, List.mem_cons] at h
    rcases h with h | rfl | h
    · exact hw c h
    · decide
    · exact hf c h

theorem splitPlaces_eq (places units : Nat) :
    splitPlaces places units =
      let all := paddedDigits (places + 1) units
      (all.take (all.length - places), all.drop (all.length - places)) := List.splitAt_eq

theorem numeral_of_mem_fixedDigits {places num den : Nat} {c : Char} (h : c ∈ fixedDigits places num den) :
    Numeral c := by
  rw [fixedDigits, splitPlaces_eq] at h
  refine numeral_of_mem_assemble (fun c hw => ?_) (fun c hf => ?_) h
  · exact numeral_of_mem_paddedDigits (List.mem_of_mem_take hw)
  · exact numeral_of_mem_paddedDigits (List.mem_of_mem_drop hf)

/-- A double in fixed notation has no characters but those of numerals. -/
theorem numeral_of_mem_fixed {places : Nat} {x : Float} {c : Char} (h : c ∈ (fixed places x).toList) :
    Numeral c := by
  rw [fixed] at h
  cases hx : Binary64.ofFloat x with
  | nan =>
    rw [hx] at h
    change c ∈ "nan".toList at h
    exact numeral_of_mem_word (by decide) h
  | infinite negative =>
    rw [hx, String.toList_ofList, List.mem_append] at h
    exact h.elim numeral_of_mem_sign (numeral_of_mem_word (by decide))
  | finite negative mantissa exponent =>
    rw [hx, String.toList_ofList, List.mem_append] at h
    exact h.elim numeral_of_mem_sign numeral_of_mem_fixedDigits

end Flotation.Decimal
