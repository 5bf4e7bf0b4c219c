import Flotation.Setup.Issue
import Flotation.Proofs.Bytes

/-! Joined texts and how they are taken apart. A separator is written wherever some text stands before it, so only
empty texts at the front go without. Texts that are not empty and have no separator of their own are the pieces of
the joined text between its separators. -/
namespace Flotation

namespace Text

theorem bytes_intercalate (separator : String) (texts : List String) :
    bytes (separator.intercalate texts) = (bytes separator).intercalate (texts.map bytes) := by
  induction texts with
  | nil => simp [bytes]
  | cons text rest ih =>
    cases rest with
    | nil => simp
    | cons next rest =>
      simp only [List.map_cons] at ih
      simp [ih]

/-- Once there is some text, every further one comes behind a separator, also an empty one. -/
theorem foldl_joined {done : String} (h : done.isEmpty = false) (texts : List String) :
    texts.foldl (fun done text => if done.isEmpty then text else done ++ "; " ++ text) done =
      "; ".intercalate (done :: texts) := by
  induction texts generalizing done with
  | nil => simp
  | cons text texts ih =>
    have hnext : (done ++ "; " ++ text).isEmpty = false := by simp
    rw [List.foldl_cons, h, if_neg Bool.false_ne_true, ih hnext]
    simp

theorem joined_eq (texts : List String) : joined texts = "; ".intercalate (texts.dropWhile String.isEmpty) := by
  induction texts with
  | nil => simp [joined]
  | cons text texts ih =>
    by_cases h : text.isEmpty = true
    · have hempty : text = "" := by simpa using h
      rw [List.dropWhile_cons_of_pos h, ← ih, hempty]
      rfl
    · have hfull : text.isEmpty = false := by simpa using h
      rw [List.dropWhile_cons_of_neg h, ← foldl_joined hfull]
      rfl

section Pieces
variable {α : Type} [DecidableEq α]

/-- The pieces of a list between the separators in it. A separator is taken as soon as one is met from the front, and
the search goes on behind it. -/
def pieces (separator : List α) : List α → List (List α)
  | [] => [[]]
  | item :: rest =>
    if separator <+: item :: rest then [] :: pieces separator (rest.drop (separator.length - 1))
    else (pieces separator rest).modifyHead (item :: ·)
termination_by list => list.length

variable {separator : List α}

theorem pieces_cons {item : α} {rest : List α} (h : ¬ separator <+: item :: rest) :
    pieces separator (item :: rest) = (pieces separator rest).modifyHead (item :: ·) := by
  rw [pieces, if_neg h]

theorem pieces_of_free {list : List α} (h : ¬ separator <:+: list) : pieces separator list = [list] := by
  induction list with
  | nil => rw [pieces]
  | cons item list ih =>
    have hfront : ¬ separator <+: item :: list := fun hp => h hp.isInfix
    have hrest : ¬ separator <:+: list := fun hi => h (List.infix_cons hi)
    rw [pieces_cons hfront, ih hrest]
    rfl

/-- The first piece ends where the separator first stands. One that began sooner would lie within the piece and all
but the last item of the separator behind it. -/
theorem pieces_append (hne : separator ≠ []) {list : List α} (h : ¬ separator <:+: list ++ separator.dropLast)
    (rest : List α) : pieces separator (list ++ separator ++ rest) = list :: pieces separator rest := by
  induction list with
  | nil =>
    obtain ⟨item, tail, rfl⟩ := List.exists_cons_of_ne_nil hne
    have hfront : item :: tail <+: item :: (tail ++ rest) := List.prefix_append (item :: tail) rest
    simp [pieces, hfront]
  | cons item list ih =>
    have hrest : ¬ separator <:+: list ++ separator.dropLast := fun hi => h (List.infix_cons hi)
    have hfront : ¬ separator <+: item :: (list ++ separator ++ rest) := by
      intro hp
      have hlast : separator.dropLast <+: separator ++ rest :=
        (List.dropLast_prefix separator).trans (List.prefix_append separator rest)
      have hwithin : (item :: list) ++ separator.dropLast <+: (item :: list) ++ (separator ++ rest) :=
        (List.prefix_append_right_inj (item :: list)).mpr hlast
      have hlength : separator.length ≤ ((item :: list) ++ separator.dropLast).length := by
        simp only [List.length_append, List.length_cons, List.length_dropLast]
        omega
      rw [List.append_assoc] at hp
      exact h (List.prefix_of_prefix_length_le hp hwithin hlength).isInfix
    rw [List.cons_append, List.cons_append, pieces_cons hfront, ih hrest]
    rfl

theorem pieces_intercalate (hne : separator ≠ []) {parts : List (List α)} (hparts : parts ≠ [])
    (h : ∀ part ∈ parts, ¬ separator <:+: part ++ separator.dropLast) :
    pieces separator (separator.intercalate parts) = parts := by
  induction parts with
  | nil => exact absurd rfl hparts
  | cons part parts ih =>
    have hpart := h part List.mem_cons_self
    cases parts with
    | nil =>
      rw [List.intercalate_singleton]
      apply pieces_of_free
      intro hi
      exact hpart (hi.trans (List.infix_append' [] part separator.dropLast))
    | cons next parts =>
      have hrest := ih (List.cons_ne_nil next parts) fun other ho => h other (List.mem_cons_of_mem part ho)
      rw [List.intercalate_cons_cons, pieces_append hne hpart, hrest]

end Pieces

/-- A text that is not empty and has no separator in it. -/
def Unbroken (text : String) : Prop := text ≠ "" ∧ ¬ bytes "; " <:+: bytes text

instance (text : String) : Decidable (Unbroken text) := inferInstanceAs (Decidable (_ ∧ _))

/-- The two bytes of the separator differ, so that half of one at the end of a text makes none with the separator
behind it. -/
theorem Unbroken.free {text : String} (h : Unbroken text) :
    ¬ bytes "; " <:+: bytes text ++ (bytes "; ").dropLast := by
  have hseparator : bytes "; " = [';'.toUInt8, blank] := by decide
  intro hi
  rw [hseparator] at hi
  rcases List.infix_concat_iff.mp hi with hend | hinside
  · have hlast : blank = ';'.toUInt8 := by simpa using hend.getLast (List.cons_ne_nil _ _)
    exact absurd hlast (by decide)
  · apply h.2
    rwa [hseparator]

theorem pieces_joined {texts : List String} (hne : texts ≠ []) (h : ∀ text ∈ texts, Unbroken text) :
    pieces (bytes "; ") (bytes (joined texts)) = texts.map bytes := by
  have hkept : texts.dropWhile String.isEmpty = texts := by
    cases texts with
    | nil => rfl
    | cons text texts =>
      have hfull : text ≠ "" := (h text List.mem_cons_self).1
      apply List.dropWhile_cons_of_neg
      simpa using hfull
  rw [joined_eq, hkept, bytes_intercalate]
  apply pieces_intercalate (by decide)
  · simpa using hne
  · intro part hp
    obtain ⟨text, ht, rfl⟩ := List.mem_map.mp hp
    exact (h text ht).free

/-- Joining puts a separator between the texts, without those that are empty and have only empty ones before them.
If all texts are unbroken, then they are the pieces of the joined text, whatever they begin and end with. -/
theorem joined_comes_apart (texts : List String) :
    joined texts = "; ".intercalate (texts.dropWhile String.isEmpty) ∧ joined [] = "" ∧
      (texts ≠ [] → (∀ text ∈ texts, Unbroken text) →
        pieces (bytes "; ") (bytes (joined texts)) = texts.map bytes) :=
  ⟨joined_eq texts, rfl, fun hne h => pieces_joined hne h⟩

/-- Texts that end with half of a separator or begin with the other half. -/
theorem halves_come_apart :
    (∀ text ∈ [" a;", " b", ";", "ü ;"], Unbroken text) ∧ joined [" a;", " b", ";", "ü ;"] = " a;;  b; ;; ü ;" ∧
      pieces (bytes "; ") (bytes " a;;  b; ;; ü ;") = [bytes " a;", bytes " b", bytes ";", bytes "ü ;"] := by
  have h : ∀ text ∈ [" a;", " b", ";", "ü ;"], Unbroken text := by decide
  have hjoined : joined [" a;", " b", ";", "ü ;"] = " a;;  b; ;; ü ;" := by decide
  have hpieces := (joined_comes_apart [" a;", " b", ";", "ü ;"]).2.2 (List.cons_ne_nil _ _) h
  rw [hjoined] at hpieces
  exact ⟨h, hjoined, hpieces⟩

end Text

namespace Issue
open Text

theorem unbroken_text (issue : Issue) : Unbroken issue.text := by
  cases issue <;> decide

/-- Each issue found can be read off the summary, in order. -/
theorem pieces_summary {found : List Issue} (h : found ≠ []) :
    pieces (bytes "; ") (bytes (summary found)) = found.map fun issue => bytes issue.text := by
  have hne : found.map text ≠ [] := by simpa using h
  have hall : ∀ problem ∈ found.map text, Unbroken problem := by
    intro problem hp
    obtain ⟨issue, -, rfl⟩ := List.mem_map.mp hp
    exact issue.unbroken_text
  rw [summary, pieces_joined hne hall, List.map_map]
  rfl

end Issue
end Flotation
