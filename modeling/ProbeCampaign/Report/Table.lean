import ProbeCampaign.Text.Width

/-!
# Tables in boxes

`render` draws a heading and rows of cells as a box: a double line under the
heading, a dashed one between rows. Every column is as wide as its widest cell,
with a blank on both sides; a cell with line breaks takes several lines.
-/

namespace ProbeCampaign.Table

/-- The characters of a horizontal line: its left end, the line itself, a
crossing, and its right end. -/
structure Rule where
  left : String
  line : String
  crossing : String
  right : String

/-- The line above the heading. -/
def top : Rule := ⟨"┌", "─", "┬", "┐"⟩

/-- The line below the heading. -/
def underHeading : Rule := ⟨"╞", "═", "╪", "╡"⟩

/-- The line between two rows. -/
def between : Rule := ⟨"├", "╌", "┼", "┤"⟩

/-- The line below the last row. -/
def bottom : Rule := ⟨"└", "─", "┴", "┘"⟩

/-- A text several times in a row. -/
def times (n : Nat) (s : String) : String :=
  String.join (List.replicate n s)

/-- A horizontal line over columns of the given widths. -/
def Rule.draw (r : Rule) (widths : List Nat) : String :=
  r.left ++ r.crossing.intercalate (widths.map fun w => times (w + 2) r.line) ++ r.right

/-- The lines of a cell. -/
def cellLines (cell : String) : List String :=
  (cell.toList.splitOn '\n').map String.ofList

/-- The columns that a cell takes. -/
def cellWidth (cell : String) : Nat :=
  ((cellLines cell).map Text.width).foldl max 0

/-- The widths of the columns. -/
def widths (heading : List String) (rows : List (List String)) : List Nat :=
  rows.foldl (fun ws row => List.zipWith max ws (row.map cellWidth)) (heading.map cellWidth)

/-- A line of a cell in a column. -/
def pad (width : Nat) (line : String) : String :=
  " " ++ line ++ times (width - Text.width line) " " ++ " "

/-- The lines of a row. -/
def drawRow (widths : List Nat) (row : List String) : List String :=
  let cells := row.map cellLines
  let height := (cells.map List.length).foldl max 0
  (List.range height).map fun i =>
    let parts := List.zipWith (fun w lines => pad w (lines.getD i "")) widths cells
    "│" ++ "┆".intercalate parts ++ "│"

/-- The lines of a box. -/
def lines (heading : List String) (rows : List (List String)) : List String :=
  let ws := widths heading rows
  let body := (rows.map (drawRow ws)).intersperse [between.draw ws]
  [top.draw ws] ++ drawRow ws heading ++ [underHeading.draw ws] ++ body.flatten ++
    [bottom.draw ws]

end ProbeCampaign.Table
