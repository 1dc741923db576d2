/-!
# Grids — rows of cells

A grid is a list of rows and a row is a list of cell texts. Rows may differ in length; positions
count from 0.

* `Grid.cell?`, `Grid.set`: one cell
* `Grid.width`: the length of the longest row
* `Grid.padded`: the rectangular grid with empty cells at the ends of short rows
-/

namespace SheetMarkup

abbrev Grid := List (List String)

namespace Grid

def cell? (grid : Grid) (row column : Nat) : Option String :=
  grid[row]?.bind (·[column]?)

def set (grid : Grid) (row column : Nat) (text : String) : Grid :=
  grid.modify row (·.set column text)

def width (grid : Grid) : Nat :=
  grid.foldr (fun row n => max row.length n) 0

def isVoid (grid : Grid) : Bool :=
  grid.length == 0 || grid.width == 0

def padRow (length : Nat) (row : List String) : List String :=
  row ++ List.replicate (length - row.length) ""

def padded (grid : Grid) : Grid :=
  grid.map (padRow grid.width)

def positions (grid : Grid) : List (Nat × Nat) :=
  grid.zipIdx.flatMap fun (cells, row) => (List.range cells.length).map fun column => (row, column)

end Grid
end SheetMarkup
