import OrderDesk.Text.Columns

/-!
# `OrderDesk.Text.Table` — tables in boxes

A table is drawn with a frame, a line under the heads, and one space on both sides of each cell.

## Contents
- `Table.render`: a table's lines.
-/

namespace OrderDesk.Table

/-- The lines of a cell. -/
def lines (cell : String) : List String := cell.splitOn "\n"

/-- The width of a cell's longest line. -/
def cellWidth (cell : String) : Nat := ((lines cell).map Columns.width).foldl max 0

/-- The width of every column. -/
def widths (rows : List (List String)) : List Nat :=
  match rows with
  | [] => []
  | first :: rest =>
    rest.foldl (fun widths row => List.zipWith max widths (row.map cellWidth)) (first.map cellWidth)

/-- A line of the frame with its left end, crossings and right end. -/
def rule (left cross right : String) (widths : List Nat) : String :=
  left ++ cross.intercalate (widths.map fun w => String.ofList (List.replicate (w + 2) '─'))
    ++ right

/-- The lines of a row; shorter cells are filled up below. -/
def rowLines (widths : List Nat) (row : List String) : List String :=
  let cells := row.map lines
  let height := (cells.map List.length).foldl max 1
  (List.range height).map fun i =>
    "│" ++ "│".intercalate (List.zipWith
      (fun w cell => " " ++ Columns.padTo w (cell[i]?.getD "") ++ " ") widths cells) ++ "│"

/-- A table of a row of heads and the rows below. -/
def render (heads : List String) (rows : List (List String)) : String :=
  let widths := widths (heads :: rows)
  "\n".intercalate <|
    [rule "┌" "┬" "┐" widths] ++ rowLines widths heads ++ [rule "├" "┼" "┤" widths]
      ++ rows.flatMap (rowLines widths) ++ [rule "└" "┴" "┘" widths]

end OrderDesk.Table
