/-
  Tables with rules around their cells.

  A column is as wide as the widest line of its cells. The head has heavy rules, the body light ones, and a title
  is centred above.
-/

import ProtoEmit.Terminal.Lines

namespace ProtoEmit.Terminal

/-- A rule across the columns of the given widths. -/
def rule (left line cross right : String) (widths : List Nat) : String :=
  left ++ cross.intercalate (widths.map fun w => String.join (List.replicate (w + 2) line)) ++ right

/-- A line of a cell filled up with blanks. A joiner at its end takes the first of them to itself, so what is
    filled is measured and filled again. -/
def padCell (width : Nat) (cs : List Char) : List Char :=
  padRight width (padRight width cs)

/-- A line of cells between upright rules. -/
def rowLine (bar : String) (widths : List Nat) (cells : List (List Char)) : String :=
  let padded := List.zipWith (fun w cs => " " ++ String.ofList (padCell w cs) ++ " ") widths cells
  bar ++ bar.intercalate padded ++ bar

/-- The lines of a row: as many as its highest cell has. -/
def rowLines (bar : String) (widths : List Nat) (cells : List String) : List String :=
  let columns := List.zipWith linesWithin widths cells
  let height := (columns.map List.length).foldl max 0
  (List.range height).map fun i => rowLine bar widths (columns.map fun ls => ls.getD i [])

/-- The width of each column. -/
def columnWidths (head : List String) (rows : List (List String)) : List Nat :=
  rows.foldl (fun widths row => List.zipWith max widths (row.map widestLine)) (head.map widestLine)

/-- The lines of a table. -/
def grid (title : String) (head : List String) (rows : List (List String)) : List String :=
  let widths := columnWidths head rows
  let total := (widths.map (· + 3)).foldl (· + ·) 0 + 1
  [String.ofList (centre total title.toList), rule "┏" "━" "┳" "┓" widths]
    ++ rowLines "┃" widths head
    ++ [rule "┡" "━" "╇" "┩" widths]
    ++ rows.flatMap (rowLines "│" widths)
    ++ [rule "└" "─" "┴" "┘" widths]

end ProtoEmit.Terminal
