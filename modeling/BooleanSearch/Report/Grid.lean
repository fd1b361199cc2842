import BooleanSearch.Text.DisplayWidth

/-! # Grids

A grid shows rows of cells under a header, in a frame of lines. A cell may hold several lines;
every column is as wide as its widest line, with a space on either side.
-/

namespace BooleanSearch

open Text (displayWidth)

/-- A header and the rows below it, all with the same number of cells. -/
structure Grid where
  header : List String
  rows : List (List String)

namespace Grid

/-- Splits a text at its line feeds. -/
def splitLines : List Char → List (List Char)
  | [] => [[]]
  | '\n' :: rest => [] :: splitLines rest
  | c :: rest =>
    match splitLines rest with
    | [] => [[c]]
    | first :: others => (c :: first) :: others

/-- The lines of a cell. -/
def cellLines (cell : String) : List String := (splitLines cell.toList).map String.ofList

/-- The width of the widest line of a cell. -/
def cellWidth (cell : String) : Nat :=
  (cellLines cell).foldl (fun width line => max width (displayWidth line)) 0

/-- The width of each column. -/
def widths (grid : Grid) : List Nat :=
  grid.rows.foldl (fun widths row => List.zipWith max widths (row.map cellWidth))
    (grid.header.map cellWidth)

/-- A text with spaces behind it, up to a width. -/
def pad (width : Nat) (text : String) : String :=
  text ++ String.ofList (List.replicate (width - displayWidth text) ' ')

/-- A line of the frame, from its ends, its joints and its stroke. -/
def rule (left joint right : String) (stroke : Char) (widths : List Nat) : String :=
  let strokes := widths.map fun width => String.ofList (List.replicate (width + 2) stroke)
  left ++ joint.intercalate strokes ++ right

/-- One line of a row. -/
def rowLine (widths : List Nat) (cells : List (List String)) (index : Nat) : String :=
  "│ " ++ " ┆ ".intercalate
    (List.zipWith (fun width lines => pad width (lines.getD index "")) widths cells) ++ " │"

/-- The lines of a row, as many as its tallest cell has. -/
def rowLines (widths : List Nat) (row : List String) : List String :=
  let cells := row.map cellLines
  let height := cells.foldl (fun height lines => max height lines.length) 0
  (List.range height).map (rowLine widths cells)

/-- The grid as text, without a line feed at the end. -/
def render (grid : Grid) : String :=
  let widths := grid.widths
  "\n".intercalate (
    [rule "┌" "┬" "┐" '─' widths] ++ rowLines widths grid.header ++
    [rule "╞" "╪" "╡" '═' widths] ++ grid.rows.flatMap (rowLines widths) ++
    [rule "└" "┴" "┘" '─' widths])

end Grid

end BooleanSearch
