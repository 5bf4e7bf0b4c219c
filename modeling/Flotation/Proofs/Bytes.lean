import Flotation.Text
import Mathlib.Tactic.SplitIfs

/-! Texts as lists of bytes, in their UTF-8 form. -/
namespace Flotation.Text

/-- The bytes of a text. -/
def bytes (text : String) : List UInt8 := text.toByteArray.data.toList

@[simp] theorem length_bytes (text : String) : (bytes text).length = text.utf8ByteSize := rfl

@[simp] theorem bytes_append (front rest : String) : bytes (front ++ rest) = bytes front ++ bytes rest := by
  simp [bytes]

theorem bytes_ofList (characters : List Char) :
    bytes (String.ofList characters) = characters.flatMap String.utf8EncodeChar := by
  simp [bytes, List.utf8Encode]

theorem bytes_eq (text : String) : bytes text = text.toList.flatMap String.utf8EncodeChar := by
  rw [← bytes_ofList, String.ofList_toList]

/-- A byte below 128 stands for the character of its number, and is no part of another one. -/
theorem toNat_of_mem_utf8EncodeChar {c : Char} {b : UInt8} (hb : b.toNat < 128)
    (h : b ∈ String.utf8EncodeChar c) : c.toNat = b.toNat := by
  have hc : c.toNat = c.val.toNat := rfl
  unfold String.utf8EncodeChar at h
  dsimp only at h
  split_ifs at h
  all_goals simp only [List.mem_cons, List.not_mem_nil, or_false] at h
  · subst h
    simp only [UInt8.toNat_ofNat'] at hb ⊢
    omega
  -- the bytes of the longer forms are 128 at least
  · rcases h with rfl | rfl <;> simp only [UInt8.toNat_ofNat'] at hb <;> omega
  · rcases h with rfl | rfl | rfl <;> simp only [UInt8.toNat_ofNat'] at hb <;> omega
  · rcases h with rfl | rfl | rfl | rfl <;> simp only [UInt8.toNat_ofNat'] at hb <;> omega

/-- What columns and words are set apart with. -/
def blank : UInt8 := ' '.toUInt8

theorem blank_mem_bytes {text : String} (h : blank ∈ bytes text) : ' ' ∈ text.toList := by
  rw [bytes_eq] at h
  obtain ⟨c, hc, hb⟩ := List.mem_flatMap.mp h
  have hnumber : c.toNat = blank.toNat := toNat_of_mem_utf8EncodeChar (by decide) hb
  have hsame : c = ' ' := Char.toNat_inj.mp hnumber
  rwa [← hsame]

end Flotation.Text
