set_option autoImplicit false

namespace Dataflow.Text

inductive Alignment where
  | left
  | right
deriving DecidableEq

structure Cell where
  alignment : Alignment
  lines : Array String
deriving DecidableEq

/-- A row of titles and rows of cells. A row is as high as its highest cell and a column as wide as
its widest line, with a blank on either side of a cell. One rule is drawn below the titles and one
below the last row. -/
structure Table where
  titles : List Cell
  rows : List (List Cell)

namespace Cell

def left (text : String) : Cell := ⟨.left, #[text]⟩

def right (text : String) : Cell := ⟨.right, #[text]⟩

def width (cell : Cell) : Nat := (cell.lines.toList.map String.length).foldl max 0

def fill (alignment : Alignment) (width : Nat) (line : String) : String :=
  let space := String.ofList (List.replicate (width - line.length) ' ')
  match alignment with
  | .left => line ++ space
  | .right => space ++ line

/-- One line of the cell with its margins; blank below the last one. -/
def line (width : Nat) (cell : Cell) (index : Nat) : String :=
  " " ++ fill cell.alignment width (cell.lines.getD index "") ++ " "

end Cell

namespace Table

/-- The larger of two widths in each column; columns that one of the rows lacks are kept. -/
def widen : List Nat → List Nat → List Nat
  | [], widths => widths
  | widths, [] => widths
  | width :: rest, other :: others => max width other :: widen rest others

def widths (table : Table) : List Nat :=
  table.rows.foldl (fun widths row => widen widths (row.map Cell.width))
    (table.titles.map Cell.width)

def rowLines (widths : List Nat) (row : List Cell) : List String :=
  let height := (row.map fun cell => cell.lines.size).foldl max 1
  (List.range height).map fun index =>
    let cells := (widths.zip row).map fun (width, cell) => cell.line width index
    " " ++ String.intercalate "│" cells ++ " "

/-- A rule across all columns, with a joint between any two. -/
def rule (widths : List Nat) (joint : String) : String :=
  let parts := widths.map fun width => String.ofList (List.replicate (width + 2) '─')
  " " ++ String.intercalate joint parts ++ " "

def lines (table : Table) : List String :=
  let widths := table.widths
  rowLines widths table.titles ++ [rule widths "┼"] ++
    table.rows.flatMap (rowLines widths) ++ [rule widths "┴"]

/-- The table as text; every line has its end. -/
def text (table : Table) : String := String.join (table.lines.map (· ++ "\n"))

end Table

end Dataflow.Text
