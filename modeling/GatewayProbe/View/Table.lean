/-
Tables drawn with lines.

Each column is as wide as its widest line, with a blank at each side, and cells begin at the left. A
cell may have several lines.

* `Table` — a header and rows;
* `Table.render` — the drawn table.
-/
import GatewayProbe.Text.Lines
import GatewayProbe.Text.Width

namespace GatewayProbe

/-- A header and rows of cells. -/
structure Table where
  header : List String
  rows : List (List String)

namespace Table

/-- A cell as its lines. -/
abbrev Cell := List String

/-- The lines of a cell. -/
def cell (s : String) : Cell := Text.splitAtChar '\n' s

/-- The width of a cell. -/
def cellWidth (c : Cell) : Nat := (c.map Text.width).foldl max 0

/-- The widths of the columns of some rows. -/
def widths (columns : Nat) (rows : List (List Cell)) : List Nat :=
  (List.range columns).map fun i =>
    (rows.map fun row => ((row[i]?).map cellWidth).getD 0).foldl max 0

/-- A line filled up to a width, with a blank at each side. -/
def padded (width : Nat) (line : String) : String :=
  " " ++ line ++ String.ofList (List.replicate (width - Text.width line) ' ') ++ " "

/-- One line of a row. -/
def rowLine (widths : List Nat) (row : List Cell) (n : Nat) : String :=
  "│" ++ "┆".intercalate ((widths.zip row).map fun (w, c) => padded w (c.getD n "")) ++ "│"

/-- The lines of a row. -/
def rowLines (widths : List Nat) (row : List Cell) : List String :=
  (List.range ((row.map List.length).foldl max 1)).map (rowLine widths row)

/-- A rule across the table. -/
def rule (left fill cross right : String) (widths : List Nat) : String :=
  left ++ cross.intercalate (widths.map fun w => String.join (List.replicate (w + 2) fill)) ++ right

/-- Rows with rules between them. -/
def body (widths : List Nat) : List (List Cell) → List String
  | [] => []
  | [row] => rowLines widths row
  | row :: rest => rowLines widths row ++ rule "├" "╌" "┼" "┤" widths :: body widths rest

/-- The drawn table. -/
def render (t : Table) : String :=
  let header := t.header.map cell
  let rows := t.rows.map (·.map cell)
  let w := widths header.length (header :: rows)
  "\n".intercalate ([rule "┌" "─" "┬" "┐" w] ++ rowLines w header ++ [rule "╞" "═" "╪" "╡" w] ++
    body w rows ++ [rule "└" "─" "┴" "┘" w])

end Table
end GatewayProbe
