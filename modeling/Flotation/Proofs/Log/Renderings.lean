import Flotation.Console
import Flotation.Proofs.Notation
import Mathlib.Data.List.TakeWhile
import Mathlib.Tactic.SplitIfs

/-! The two renderings of a log entry, plain and painted. A terminal takes a painted line apart into signs, which
it shows, and switches to other colours; without the switches the line is the plain one. -/
namespace Flotation

/-- What a terminal is sent: a sign to be shown, or a switch to the colour of a number. -/
inductive Signal where
  | sign (c : Char)
  | switch (code : Nat)
  deriving DecidableEq, Repr

namespace Signal

def escape : Char := '\x1b'

/-- The number of the switch that a text begins with, and the text behind it. A switch is an escape, a bracket,
digits and the letter m. -/
def switch? : List Char → Option (Nat × List Char)
  | first :: second :: rest =>
    match rest.takeWhile Char.isDigit, rest.dropWhile Char.isDigit with
    | digit :: digits, last :: behind =>
      if first = escape ∧ second = '[' ∧ last = 'm' then some (Nat.ofDigitChars 10 (digit :: digits) 0, behind)
      else none
    | _, _ => none
  | _ => none

theorem switch?_eq_some {text behind : List Char} {code : Nat} :
    switch? text = some (code, behind) ↔
      ∃ digits, digits ≠ [] ∧ (∀ d ∈ digits, d.isDigit = true) ∧ Nat.ofDigitChars 10 digits 0 = code ∧
        text = escape :: '[' :: (digits ++ 'm' :: behind) := by
  constructor
  · intro h
    unfold switch? at h
    split at h
    · rename_i first second rest
      split at h
      · rename_i digit digits last behind' ht hd
        split_ifs at h with hc
        obtain ⟨rfl, rfl, rfl⟩ := hc
        cases h
        refine ⟨digit :: digits, List.cons_ne_nil _ _, ?_, rfl, ?_⟩
        · rw [← ht]
          exact fun d => List.mem_takeWhile_imp
        · rw [← ht, ← hd, List.takeWhile_append_dropWhile]
      · cases h
    · cases h
  · rintro ⟨digits, hne, hdigits, rfl, rfl⟩
    obtain ⟨digit, more, rfl⟩ := List.exists_cons_of_ne_nil hne
    have hm : ¬ 'm'.isDigit = true := by decide
    have ht : ((digit :: more) ++ 'm' :: behind).takeWhile Char.isDigit = digit :: more := by
      rw [List.takeWhile_append_of_pos hdigits, List.takeWhile_cons_of_neg hm, List.append_nil]
    have hd : ((digit :: more) ++ 'm' :: behind).dropWhile Char.isDigit = 'm' :: behind := by
      rw [List.dropWhile_append_of_pos hdigits, List.dropWhile_cons_of_neg hm]
    rw [switch?, ht, hd]
    exact if_pos ⟨rfl, rfl, rfl⟩

theorem length_behind_lt {text behind : List Char} {code : Nat} (h : switch? text = some (code, behind)) :
    behind.length < text.length := by
  obtain ⟨digits, -, -, -, rfl⟩ := switch?_eq_some.mp h
  simp only [List.length_cons, List.length_append]
  omega

/-- A text as a terminal takes it, from the front. An escape that begins no switch is a sign as any other. -/
def read : List Char → List Signal
  | [] => []
  | c :: rest =>
    match h : switch? (c :: rest) with
    | some (code, behind) =>
      have := length_behind_lt h
      .switch code :: read behind
    | none => .sign c :: read rest
termination_by text => text.length
decreasing_by
  · assumption
  · exact Nat.lt_succ_self _

theorem read_switch {text behind : List Char} {code : Nat} (hs : switch? text = some (code, behind)) :
    read text = .switch code :: read behind := by
  cases text with
  | nil => cases hs
  | cons c rest =>
    rw [read]
    split
    · rename_i h
      rw [hs] at h
      cases h
      rfl
    · rename_i h
      rw [hs] at h
      cases h

/-- Only an escape can begin a switch. -/
theorem read_cons {c : Char} (hc : c ≠ escape) (rest : List Char) : read (c :: rest) = .sign c :: read rest := by
  rw [read]
  split
  · rename_i h
    obtain ⟨digits, -, -, -, he⟩ := switch?_eq_some.mp h
    exact absurd (List.cons.inj he).1 hc
  · rfl

theorem read_append {text : List Char} (h : escape ∉ text) (rest : List Char) :
    read (text ++ rest) = text.map .sign ++ read rest := by
  induction text with
  | nil => rfl
  | cons c text ih =>
    have hc : c ≠ escape := (List.ne_of_not_mem_cons h).symm
    have ht : escape ∉ text := List.not_mem_of_not_mem_cons h
    rw [List.cons_append, read_cons hc, ih ht, List.map_cons, List.cons_append]

theorem switch?_colour (colour : Colour) (rest : List Char) :
    switch? (colour.escape.toList ++ rest) = some (colour.code, rest) := by
  refine switch?_eq_some.mpr ⟨Nat.toDigits 10 colour.code, Nat.toDigits_ne_nil, fun d hd => ?_,
    Nat.ofDigitChars_ten_toDigits, ?_⟩
  · exact Nat.isDigit_of_mem_toDigits (by decide) (by decide) hd
  · rw [Colour.escape, Nat.toString_eq_ofList_toDigits]
    simp [escape]

def sign? : Signal → Option Char
  | .sign c => some c
  | .switch _ => none

def code? : Signal → Option Nat
  | .sign _ => none
  | .switch code => some code

end Signal

namespace Text
open Signal

/-- The text without its switches. -/
def unpainted (text : String) : String := String.ofList ((read text.toList).filterMap sign?)

/-- The numbers of the switches in the text, in order. -/
def switches (text : String) : List Nat := (read text.toList).filterMap code?

/-- A terminal takes the text as so much to be shown and these switches, whatever it is sent behind it. -/
def Displays (text shown : String) (codes : List Nat) : Prop :=
  ∀ rest, (read (text.toList ++ rest)).filterMap sign? = shown.toList ++ (read rest).filterMap sign? ∧
    (read (text.toList ++ rest)).filterMap code? = codes ++ (read rest).filterMap code?

namespace Displays
variable {text other shown seen : String} {codes more : List Nat}

theorem unpainted_eq (h : Displays text shown codes) : unpainted text = shown := by
  have hs := (h []).1
  rw [Signal.read, List.filterMap_nil, List.append_nil, List.append_nil] at hs
  rw [unpainted, hs, String.ofList_toList]

theorem switches_eq (h : Displays text shown codes) : switches text = codes := by
  have hc := (h []).2
  rwa [Signal.read, List.filterMap_nil, List.append_nil, List.append_nil] at hc

theorem append (h : Displays text shown codes) (k : Displays other seen more) :
    Displays (text ++ other) (shown ++ seen) (codes ++ more) := by
  intro rest
  obtain ⟨hs, hc⟩ := h (other.toList ++ rest)
  obtain ⟨ks, kc⟩ := k rest
  rw [String.toList_append, List.append_assoc, hs, ks, hc, kc, String.toList_append]
  simp only [List.append_assoc, and_self]

/-- A text without escapes is shown as it is. -/
theorem plain (h : escape ∉ text.toList) : Displays text text [] := by
  intro rest
  have hs : (text.toList.map sign).filterMap sign? = text.toList := by
    rw [List.filterMap_map]
    exact List.filterMap_some
  have hc : (text.toList.map sign).filterMap code? = [] := by
    rw [List.filterMap_map]
    exact List.filterMap_eq_nil_iff.mpr fun _ _ => rfl
  rw [read_append h, List.filterMap_append, List.filterMap_append, hs, hc]
  exact ⟨rfl, rfl⟩

/-- The escape sequence of a colour shows nothing. -/
theorem colour (colour : Colour) : Displays colour.escape "" [colour.code] := by
  intro rest
  rw [read_switch (switch?_colour colour rest)]
  exact ⟨rfl, rfl⟩

/-- A painted text is shown as it is, between the switch to the colour and the switch back. -/
theorem paint {c : Console} (hc : c.colours = true) (ink : Colour) (h : escape ∉ text.toList) :
    Displays (c.paint ink text) text [ink.code, Colour.reset.code] := by
  have hp := ((colour ink).append (plain h)).append (colour .reset)
  rw [Console.paint, hc, if_pos rfl]
  simpa using hp

end Displays
end Text

namespace Entry

/-- The colours that a line is painted with. -/
def colours (e : Entry) : List Colour :=
  .dim :: e.level.colour :: if e.context.hasComponent then [.cyan] else []

/-- What stands before the message in a line. -/
def heading (c : Console) (e : Entry) : String :=
  c.paint .dim ("[" ++ e.stamp ++ "]") ++ " " ++
    (c.paint e.level.colour ("[" ++ e.level.letters ++ "]") ++ " ") ++
      if e.context.hasComponent then c.paint .cyan ("[" ++ e.context.path ++ "]") ++ " " else ""

theorem render_eq (c : Console) (e : Entry) : e.render c = e.heading c ++ e.message := rfl

/-- The plain line is what a console without colours shows. -/
theorem render_plain {c : Console} (h : c.colours = false) : Entry.render c = Entry.text true := by
  funext e
  simp only [render, text, Console.paint, h, Bool.false_eq_true, if_false, Bool.true_and]
  split
  · simp only [String.append_assoc]
    rfl
  · simp only [String.append_assoc]
    rfl

theorem reset_notMem_colours (e : Entry) : Colour.reset ∉ e.colours := by
  have hlevel : Colour.reset ≠ e.level.colour := by cases e.level <;> decide
  rw [colours]
  cases e.context.hasComponent with
  | false => simp [hlevel]
  | true => simp [hlevel]

theorem escape_notMem_stamp (e : Entry) : Signal.escape ∉ e.stamp.toList := by
  intro h
  have hn : ¬ Decimal.Numeral Signal.escape := by decide
  exact hn (Decimal.numeral_of_mem_fixed h)

theorem escape_notMem_path {context : Context} (hentity : Signal.escape ∉ context.entity.toList)
    (hcomponent : Signal.escape ∉ context.component.toList) : Signal.escape ∉ context.path.toList := by
  have hpoint : Signal.escape ∉ ".".toList := by decide
  rw [Context.path, Text.dotted]
  split
  · exact hcomponent
  · simp only [String.toList_append, List.mem_append, not_or]
    exact ⟨⟨hentity, hpoint⟩, hcomponent⟩

/-- A text in brackets has an escape only if the text has. -/
theorem escape_notMem_bracketed {text : String} (h : Signal.escape ∉ text.toList) :
    Signal.escape ∉ ("[" ++ text ++ "]").toList := by
  have hopen : Signal.escape ∉ "[".toList := by decide
  have hclose : Signal.escape ∉ "]".toList := by decide
  simp only [String.toList_append, List.mem_append, not_or]
  exact ⟨⟨hopen, h⟩, hclose⟩

/-- Each part of a heading is painted and switched back, and the blanks between them are not painted. -/
theorem displays_heading {c : Console} (hc : c.colours = true) {e : Entry}
    (hentity : Signal.escape ∉ e.context.entity.toList)
    (hcomponent : Signal.escape ∉ e.context.component.toList) :
    Text.Displays (e.heading c) (e.heading {})
      (e.colours.flatMap fun colour => [colour.code, Colour.reset.code]) := by
  have hletters : Signal.escape ∉ e.level.letters.toList := by cases e.level <;> decide
  have hblank : Text.Displays " " " " [] := .plain (by decide)
  have hnone : Text.Displays "" "" [] := .plain (by decide)
  have hstamp := (Text.Displays.paint hc .dim (escape_notMem_bracketed e.escape_notMem_stamp)).append hblank
  have htag := (Text.Displays.paint hc e.level.colour (escape_notMem_bracketed hletters)).append hblank
  have hpath := (Text.Displays.paint hc .cyan
    (escape_notMem_bracketed (escape_notMem_path hentity hcomponent))).append hblank
  rw [heading, heading, colours]
  cases e.context.hasComponent with
  | false => exact (hstamp.append htag).append hnone
  | true => exact (hstamp.append htag).append hpath

/-- A console without colours renders an entry as its plain line. One with colours does so too but for the
switches, if none of the texts in the entry has an escape: without them the rendered line is the plain one, and
what stands before the message is painted piece by piece, each time in some colour and then back. -/
theorem renderings_agree (c : Console) (e : Entry) :
    (c.colours = false → e.render c = e.text true) ∧
      (c.colours = true → Signal.escape ∉ e.message.toList → Signal.escape ∉ e.context.entity.toList →
        Signal.escape ∉ e.context.component.toList →
        Text.unpainted (e.render c) = e.text true ∧
          ∃ front, e.render c = front ++ e.message ∧ Colour.reset ∉ e.colours ∧
            Text.switches front = e.colours.flatMap fun colour => [colour.code, Colour.reset.code]) := by
  refine ⟨fun h => congrFun (render_plain h) e, fun hc hmessage hentity hcomponent => ?_⟩
  have hfront := displays_heading hc hentity hcomponent
  have hline : Text.unpainted (e.render c) = e.render {} := (hfront.append (.plain hmessage)).unpainted_eq
  exact ⟨hline.trans (congrFun (render_plain rfl) e), e.heading c, render_eq c e, e.reset_notMem_colours,
    hfront.switches_eq⟩

/-- An entry of no finite time, whose message has what is left of a switch without its escape. -/
def endless : Entry := ⟨.fatal, 1.0 / 0.0, "lost [31m", ⟨"pool", "wall"⟩⟩

theorem endless_renderings :
    Signal.escape ∉ endless.message.toList ∧ Signal.escape ∉ endless.context.entity.toList ∧
      Signal.escape ∉ endless.context.component.toList ∧
      Text.unpainted (endless.render { colours := true }) = "[inf] [FTL] [pool.wall] lost [31m" ∧
      ∃ front, endless.render { colours := true } = front ++ "lost [31m" ∧
        Text.switches front = [2, 0, 41, 0, 36, 0] := by
  have hmessage : Signal.escape ∉ endless.message.toList := by decide
  have hentity : Signal.escape ∉ endless.context.entity.toList := by decide
  have hcomponent : Signal.escape ∉ endless.context.component.toList := by decide
  obtain ⟨hline, front, hfront, -, hswitches⟩ :=
    (renderings_agree { colours := true } endless).2 rfl hmessage hentity hcomponent
  have htext : endless.text true = "[inf] [FTL] [pool.wall] lost [31m" := by decide +kernel
  exact ⟨hmessage, hentity, hcomponent, hline.trans htext, front, hfront, hswitches⟩

end Entry
end Flotation
