import Flotation.Table
import Flotation.Proofs.Bytes
import Flotation.Proofs.Notation
import Mathlib.Algebra.GroupWithZero.Nat
import Mathlib.Data.List.SplitLengths

/-! Lines of a table, column by column. Every cell stands whole at the end of its column, also one that is wider than
the column. Cells that fit make lines of one length, which can be cut into columns and give the cells back. -/
namespace Flotation

namespace Text

theorem bytes_replicate_blank (count : Nat) :
    bytes (String.ofList (List.replicate count ' ')) = List.replicate count blank := by
  rw [bytes_ofList]
  induction count with
  | zero => rfl
  | succ count ih =>
    rw [List.replicate_succ, List.flatMap_cons, ih]
    rfl

theorem bytes_padLeft (width : Int) (text : String) :
    bytes (padLeft width text) = List.replicate (width.toNat - text.utf8ByteSize) blank ++ bytes text := by
  rw [padLeft, bytes_append, bytes_replicate_blank]

theorem utf8ByteSize_padLeft (width : Int) (text : String) :
    (padLeft width text).utf8ByteSize = max width.toNat text.utf8ByteSize := by
  rw [← length_bytes, bytes_padLeft, List.length_append, List.length_replicate, length_bytes]
  omega

end Text

namespace Table
open Text

theorem line_cons (width : Int) (cell : String) (cells : List String) :
    line width (cell :: cells) = padLeft width cell ++ line width cells := by
  simp [line]

theorem line_append (width : Int) (front rest : List String) :
    line width (front ++ rest) = line width front ++ line width rest := by
  simp [line]

/-- The number of bytes of a line: a cell takes up a column, or its own length if that is more. -/
def extent (width : Int) (cells : List String) : Nat :=
  (cells.map fun cell => max width.toNat cell.utf8ByteSize).sum

theorem utf8ByteSize_line (width : Int) (cells : List String) :
    (line width cells).utf8ByteSize = extent width cells := by
  induction cells with
  | nil => simp [line, extent]
  | cons cell cells ih => simp [line_cons, utf8ByteSize_padLeft, ih, extent]

theorem extent_of_fit {width : Int} {cells : List String} (h : ∀ cell ∈ cells, cell.utf8ByteSize ≤ width.toNat) :
    extent width cells = cells.length * width.toNat := by
  induction cells with
  | nil => simp [extent]
  | cons cell cells ih =>
    have hcell := h cell List.mem_cons_self
    have hcells := ih fun other ho => h other (List.mem_cons_of_mem _ ho)
    simp only [extent] at hcells
    simp only [extent, List.map_cons, List.sum_cons, hcells, List.length_cons, Nat.add_one_mul]
    omega

/-- A text is as long as the columns of its cells, and each cell stands whole at the end of its column. -/
structure LaidOut (width : Int) (cells : List String) (text : String) : Prop where
  size : text.utf8ByteSize = extent width cells
  whole (i : Nat) (h : i < cells.length) : bytes cells[i] <:+ (bytes text).take (extent width (cells.take (i + 1)))

/-- The line up to the end of a column is the line of the cells up to there, and it ends with the last of them. -/
theorem laidOut_line (width : Int) (cells : List String) : LaidOut width cells (line width cells) where
  size := utf8ByteSize_line width cells
  whole i h := by
    have hfront : (bytes (line width cells)).take (extent width (cells.take (i + 1))) =
        bytes (line width (cells.take (i + 1))) := by
      conv_lhs => rw [← List.take_append_drop (i + 1) cells, line_append, bytes_append]
      apply List.take_left'
      simp [utf8ByteSize_line]
    have hlast : cells.take (i + 1) = cells.take i ++ [cells[i]] := by simp
    have hline : line width [cells[i]] = padLeft width cells[i] := by simp [line]
    rw [hfront, hlast, line_append, bytes_append, hline, bytes_padLeft, ← List.append_assoc]
    exact List.suffix_append _ _

/-- A text cut into so many slices of the column width, from the front. -/
def columns (width : Int) (count : Nat) (text : String) : List (List UInt8) :=
  (List.replicate count width.toNat).splitLengths (bytes text)

/-- A slice without the blanks in front. -/
def content (column : List UInt8) : List UInt8 := column.dropWhile (· = blank)

theorem content_padLeft (width : Int) {cell : String} (h : (bytes cell).head? ≠ some blank) :
    content (bytes (padLeft width cell)) = bytes cell := by
  have hblanks : ∀ b ∈ List.replicate (width.toNat - cell.utf8ByteSize) blank, decide (b = blank) = true := by
    intro b hb
    exact decide_eq_true (List.eq_of_mem_replicate hb)
  rw [content, bytes_padLeft, List.dropWhile_append_of_pos hblanks]
  cases hc : bytes cell with
  | nil => rfl
  | cons first rest =>
    rw [hc] at h
    apply List.dropWhile_cons_of_neg
    simpa using h

/-- A cell that fits fills its column together with the blanks in front of it, so the next slice begins with the next
cell's blanks. -/
theorem columns_line {width : Int} {cells : List String} (hfit : ∀ cell ∈ cells, cell.utf8ByteSize ≤ width.toNat)
    (hfront : ∀ cell ∈ cells, (bytes cell).head? ≠ some blank) :
    (columns width cells.length (line width cells)).map content = cells.map bytes := by
  induction cells with
  | nil => rfl
  | cons cell cells ih =>
    have hrest := ih (fun other ho => hfit other (List.mem_cons_of_mem _ ho))
      (fun other ho => hfront other (List.mem_cons_of_mem _ ho))
    have hsize : (bytes (padLeft width cell)).length = width.toNat := by
      have hcell := hfit cell List.mem_cons_self
      rw [length_bytes, utf8ByteSize_padLeft]
      omega
    have hcontent := content_padLeft width (hfront cell List.mem_cons_self)
    rw [columns] at hrest ⊢
    rw [List.length_cons, List.replicate_succ, List.splitLengths_cons, line_cons, bytes_append,
      List.take_left' hsize, List.drop_left' hsize, List.map_cons, hcontent, hrest, List.map_cons]

theorem blank_notMem_cell (places : Int) (value : Float) : blank ∉ bytes (cell places value) := by
  intro h
  have hn : ¬ Decimal.Numeral ' ' := by decide
  exact hn (Decimal.numeral_of_mem_fixed (blank_mem_bytes h))

theorem utf8ByteSize_divider (width : Nat) (mark : Char) :
    (divider width mark).utf8ByteSize = width * mark.utf8Size := by
  rw [divider, ← length_bytes, bytes_ofList, List.length_flatMap]
  simp

/-- The line of labels and the line of values are laid out in columns, whatever their cells are. If there are as many
values as labels and all fit their columns, then both lines and the divider of so many columns have the same number
of bytes. Cut into columns, without the blanks in front of each, the line of values gives its cells back in order,
and so does the line of labels if no label begins with a blank itself. -/
theorem lines_come_apart (width places : Int) (labels : List String) (values : List Float) (mark : Char) :
    LaidOut width labels (heading width labels) ∧
      LaidOut width (values.map (cell places)) (row width places values) ∧
      (values.length = labels.length → mark.utf8Size = 1 →
        (∀ label ∈ labels, label.utf8ByteSize ≤ width.toNat) →
        (∀ value ∈ values, (cell places value).utf8ByteSize ≤ width.toNat) →
        (heading width labels).utf8ByteSize = labels.length * width.toNat ∧
          (row width places values).utf8ByteSize = labels.length * width.toNat ∧
          (divider (labels.length * width.toNat) mark).utf8ByteSize = labels.length * width.toNat ∧
          ((∀ label ∈ labels, (bytes label).head? ≠ some blank) →
            (columns width labels.length (heading width labels)).map content = labels.map bytes) ∧
          (columns width labels.length (row width places values)).map content =
            values.map fun value => bytes (cell places value)) := by
  refine ⟨laidOut_line width labels, laidOut_line width _, ?_⟩
  intro hcount hmark hlabels hvalues
  have hcells : ∀ text ∈ values.map (cell places), text.utf8ByteSize ≤ width.toNat := by
    intro text ht
    obtain ⟨value, hv, rfl⟩ := List.mem_map.mp ht
    exact hvalues value hv
  have hfront : ∀ text ∈ values.map (cell places), (bytes text).head? ≠ some blank := by
    intro text ht hb
    obtain ⟨value, -, rfl⟩ := List.mem_map.mp ht
    exact blank_notMem_cell places value (List.mem_of_head? hb)
  have hlength : (values.map (cell places)).length = labels.length := by rw [List.length_map, hcount]
  have hrow := columns_line hcells hfront
  rw [hlength, List.map_map] at hrow
  refine ⟨?_, ?_, ?_, columns_line hlabels, hrow⟩
  · rw [heading, utf8ByteSize_line, extent_of_fit hlabels]
  · rw [row, utf8ByteSize_line, extent_of_fit hcells, hlength]
  · rw [utf8ByteSize_divider, hmark, Nat.mul_one]

/-- A label of seven bytes but five characters and a value of seven bytes fill their columns. -/
theorem tight_lines_come_apart :
    (∀ label ∈ ["größe", ""], label.utf8ByteSize ≤ 7) ∧
      (∀ value ∈ [-12.5, 1.0 / 0.0], (cell 3 value).utf8ByteSize ≤ 7) ∧
      (heading 7 ["größe", ""]).utf8ByteSize = 14 ∧ (row 7 3 [-12.5, 1.0 / 0.0]).utf8ByteSize = 14 ∧
      (columns 7 2 (heading 7 ["größe", ""])).map content = [bytes "größe", bytes ""] ∧
      (columns 7 2 (row 7 3 [-12.5, 1.0 / 0.0])).map content = [bytes "-12.500", bytes "inf"] := by
  have hlabels : ∀ label ∈ ["größe", ""], label.utf8ByteSize ≤ 7 := by decide
  have hvalues : ∀ value ∈ [-12.5, 1.0 / 0.0], (cell 3 value).utf8ByteSize ≤ 7 := by decide +kernel
  have hfront : ∀ label ∈ ["größe", ""], (bytes label).head? ≠ some blank := by decide
  have hcells : [cell 3 (-12.5), cell 3 (1.0 / 0.0)] = ["-12.500", "inf"] := by decide +kernel
  obtain ⟨-, -, h⟩ := lines_come_apart 7 3 ["größe", ""] [-12.5, 1.0 / 0.0] '-'
  obtain ⟨hheading, hrow, -, hlabelsApart, hvaluesApart⟩ := h rfl rfl hlabels hvalues
  have hvalueTexts := hvaluesApart.trans (congrArg (List.map bytes) hcells)
  exact ⟨hlabels, hvalues, hheading, hrow, hlabelsApart hfront, hvalueTexts⟩

end Table
end Flotation
