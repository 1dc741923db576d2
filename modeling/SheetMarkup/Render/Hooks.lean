import SheetMarkup.Grid.Basic
import SheetMarkup.Layout.Trigger

/-!
# Hooks — where a host may adjust a render

Each hook takes the id of the table and a value in the making, and gives the value to go on with.
Without a host every value goes on unchanged.
-/

namespace SheetMarkup

/-- A cell that is being laid out. Its row and column are counted from 1. -/
structure CellContext where
  tableId : String
  row : Nat
  column : Nat
  colspan : Nat
  rowspan : Nat
  content : String
  deriving DecidableEq, Repr

structure RenderHooks where
  /-- The grid after hidden rows and columns have been left out. -/
  filteredData : (id : String) → Grid → Grid := fun _ grid => grid
  /-- The grid after formulas have been resolved. -/
  evaluatedData : (id : String) → Grid → Grid := fun _ grid => grid
  spanTriggers : (id : String) → SpanTriggers → SpanTriggers := fun _ triggers => triggers
  nameTag : (id : String) → String → String := fun _ tag => tag
  nameClass : (id : String) → String → String := fun _ cssClass => cssClass
  descriptionTag : (id : String) → String → String := fun _ tag => tag
  descriptionClass : (id : String) → String → String := fun _ cssClass => cssClass
  /-- The caption; while it is empty there is none. -/
  caption : (id : String) → String → String := fun _ text => text
  captionClass : (id : String) → String → String := fun _ cssClass => cssClass
  /-- Whether columns are written. -/
  columnGroupEnabled : (id : String) → Bool → Bool := fun _ enabled => enabled
  columnAttributes : (id : String) → (column : Nat) → String → String :=
    fun _ _ attributes => attributes
  cellContent : CellContext → String → String := fun _ content => content
  cellClass : CellContext → String → String := fun _ cssClass => cssClass
  rowClass : (id : String) → (row : Nat) → String → String := fun _ _ cssClass => cssClass
  tableClasses : (id : String) → List String → List String := fun _ classes => classes
  /-- The summary; while it is empty there is none. -/
  summary : (id : String) → String → String := fun _ text => text
  /-- Whether line breaks of cells and headings are made visible. -/
  showLineBreaks : (id : String) → Bool → Bool := fun _ enabled => enabled
  /-- The finished markup. -/
  output : (id : String) → String → String := fun _ markup => markup
  deriving Inhabited

end SheetMarkup
