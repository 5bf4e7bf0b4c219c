/-! Values under names, in the order in which the names were first given. -/
namespace Flotation

structure Named (α : Type) where
  entries : List (String × α) := []

namespace Named
variable {α : Type}

private def replace (name : String) (value : α) : List (String × α) → List (String × α)
  | [] => [(name, value)]
  | (other, old) :: rest =>
    if other = name then (name, value) :: rest else (other, old) :: replace name value rest

private def find? (name : String) : List (String × α) → Option α
  | [] => none
  | (other, value) :: rest => if other = name then some value else find? name rest

def get? (n : Named α) (name : String) : Option α := find? name n.entries

/-- Give a value to a name, in place of the one it has. -/
def put (n : Named α) (name : String) (value : α) : Named α := ⟨replace name value n.entries⟩

def erase (n : Named α) (name : String) : Named α := ⟨n.entries.filter (·.1 ≠ name)⟩

theorem get?_put_self (n : Named α) (name : String) (value : α) :
    (n.put name value).get? name = some value := by
  obtain ⟨entries⟩ := n
  simp only [get?, put]
  induction entries with
  | nil => simp [replace, find?]
  | cons entry rest ih =>
    unfold replace
    split
    · simp [find?]
    · rename_i h
      simp only [find?, h, if_false]
      exact ih

theorem get?_put_of_ne (n : Named α) {name other : String} (value : α) (h : name ≠ other) :
    (n.put name value).get? other = n.get? other := by
  obtain ⟨entries⟩ := n
  simp only [get?, put]
  induction entries with
  | nil => simp [replace, find?, h]
  | cons entry rest ih =>
    unfold replace
    split
    · rename_i he
      simp [find?, h, he]
    · simp only [find?]
      rw [ih]

theorem get?_erase_self (n : Named α) (name : String) : (n.erase name).get? name = none := by
  obtain ⟨entries⟩ := n
  simp only [get?, erase]
  induction entries with
  | nil => rfl
  | cons entry rest ih =>
    obtain ⟨key, value⟩ := entry
    rw [List.filter_cons]
    split
    · rename_i hk
      rw [find?, if_neg (of_decide_eq_true hk)]
      exact ih
    · exact ih

theorem get?_erase_of_ne (n : Named α) {name other : String} (h : name ≠ other) :
    (n.erase name).get? other = n.get? other := by
  obtain ⟨entries⟩ := n
  simp only [get?, erase]
  induction entries with
  | nil => rfl
  | cons entry rest ih =>
    obtain ⟨key, value⟩ := entry
    by_cases hk : key = name
    · subst hk
      simp only [find?, h, if_false, ne_eq, not_true_eq_false, decide_false, Bool.false_eq_true,
        not_false_eq_true, List.filter_cons_of_neg]
      exact ih
    · simp only [find?, ne_eq, hk, not_false_eq_true, decide_true, List.filter_cons_of_pos]
      rw [ih]

theorem mem_of_get? {n : Named α} {name : String} {value : α} (h : n.get? name = some value) :
    (name, value) ∈ n.entries := by
  obtain ⟨entries⟩ := n
  rw [get?] at h
  induction entries with
  | nil => cases h
  | cons entry rest ih =>
    rw [find?] at h
    split at h
    · rename_i he
      obtain rfl := he
      cases h
      exact List.mem_cons_self
    · exact List.mem_cons_of_mem entry (ih h)

end Named
end Flotation
