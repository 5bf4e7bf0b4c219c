import Flotation.Decimal.Fixed
import Flotation.Text

/-! Tables in fixed columns, every cell aligned to the right of its column. -/
namespace Flotation.Table

/-- One line of cells. A cell wider than the column pushes the later ones to the right. -/
def line (width : Int) (cells : List String) : String :=
  String.join (cells.map (Text.padLeft width))

/-- The line of column labels. -/
def heading (width : Int) (labels : List String) : String := line width labels

/-- The text of one value; a negative number of places means six. -/
def cell (places : Int) (value : Float) : String :=
  Decimal.fixed (if places < 0 then 6 else places.toNat) value

/-- A line of values in fixed notation. -/
def row (width places : Int) (values : List Float) : String :=
  line width (values.map (cell places))

/-- A line of one repeated character. -/
def divider (width : Nat) (mark : Char) : String := String.ofList (List.replicate width mark)

/-- The column width unless another is asked for. -/
def columnWidth : Int := 12

/-- The number of places unless another is asked for. -/
def places : Int := 3

end Flotation.Table
