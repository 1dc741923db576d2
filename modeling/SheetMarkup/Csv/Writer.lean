import SheetMarkup.Grid.Basic

/-!
# Writing comma-separated values

A field is quoted only where it has to be. A record that would be an empty line is written as an
empty quoted field, because a reader passes over empty lines.

* `writeField`, `writeRecord`: the text of a cell and of a row
* `Csv.write`: the text of a grid
-/

namespace SheetMarkup.Csv

def needsQuotes (c : Char) : Bool :=
  c == ',' || c == '"' || c == '\r' || c == '\n'

/-- The inside of a quoted field: each quote is written twice. -/
def doubled : List Char → List Char
  | [] => []
  | c :: cs => if c = '"' then '"' :: '"' :: doubled cs else c :: doubled cs

def writeField (cell : List Char) : List Char :=
  if cell.any needsQuotes then '"' :: doubled cell ++ ['"'] else cell

def writeFields : List String → List Char
  | [] => []
  | [cell] => writeField cell.toList
  | cell :: cells => writeField cell.toList ++ ',' :: writeFields cells

def writeRecord (row : List String) : List Char :=
  let fields := writeFields row
  (if fields.isEmpty then ['"', '"'] else fields) ++ ['\n']

def write (grid : Grid) : String :=
  String.ofList (grid.flatMap writeRecord)

end SheetMarkup.Csv
