/-!
# Layouts — rows and cells ready to be written
-/

namespace SheetMarkup

inductive CellTag where
  | data
  | header
  deriving DecidableEq, Repr, Inhabited

def CellTag.element : CellTag → String
  | .data => "td"
  | .header => "th"

/-- A cell that is written. Its content is markup already. -/
structure LayoutCell where
  content : String := ""
  tag : CellTag := .data
  colspan : Nat := 1
  rowspan : Nat := 1
  cssClass : String := ""
  /-- The inline style, which only cells of the first row have. -/
  style : Option String := none
  deriving DecidableEq, Repr, Inhabited

inductive Section where
  | header
  | body
  | footer
  deriving DecidableEq, Repr, Inhabited

/-- A row with the cells that are left after merging, from left to right. -/
structure LayoutRow where
  /-- The number of the row in the grid, from 1. -/
  index : Nat
  part : Section
  cssClass : String := ""
  cells : List LayoutCell := []
  deriving DecidableEq, Repr, Inhabited

structure Caption where
  text : String
  cssClass : String
  deriving DecidableEq, Repr, Inhabited

structure TableLayout where
  header : Option LayoutRow := none
  footer : Option LayoutRow := none
  body : List LayoutRow := []
  caption : Option Caption := none
  /-- The attributes of each column, if columns are written at all. -/
  columnGroup : Option (List String) := none
  deriving DecidableEq, Repr, Inhabited

def TableLayout.rows (l : TableLayout) : List LayoutRow :=
  l.header.toList ++ l.body ++ l.footer.toList

end SheetMarkup
