import SheetMarkup.Grid.Basic
import SheetMarkup.Layout.Basic
import SheetMarkup.Layout.Trigger

/-!
# Span walk — which cells are written, and how far they reach

A grid is walked from the bottom right to the top left. A trigger whose merge is allowed writes
nothing and lengthens what comes next: one counter for each column counts the triggers below that
reach upwards, one counter for the row those to the right that reach to the left. The next cell that
is written takes both counts as its spans and sets them back. A trigger whose merge is not allowed is
written as a blank cell.

* `Frame`: the sections of a grid and the merges they allow
* `Decision`, `Frame.decide`: what becomes of one cell
* `Frame.walkCells`, `Frame.walkRows`: the walk along a row and through the rows
-/

namespace SheetMarkup

/-- The sections of a grid: whether its first row is a header, its last one a footer and its first
column a column of headers. -/
structure Frame where
  rows : Nat
  head : Bool
  foot : Bool
  headColumn : Bool
  deriving DecidableEq, Repr

namespace Frame

def part (f : Frame) (row : Nat) : Section :=
  if f.head && row == 0 then .header
  else if f.foot && row + 1 == f.rows then .footer
  else .body

/-- Whether a cell may be merged into the one above: neither of them outside the body, unless the
grid has no such section. -/
def mayMergeUp (f : Frame) (row : Nat) : Bool :=
  row != 0 && !(f.head && row == 1) && !(f.foot && row + 1 == f.rows)

/-- Whether a cell may be merged into the one to the left: not into the column of headers. -/
def mayMergeLeft (f : Frame) (column : Nat) : Bool :=
  column != 0 && !(f.headColumn && column == 1)

def allows (f : Frame) (row column : Nat) : SpanKind → Bool
  | .rowspan => f.mayMergeUp row
  | .colspan => f.mayMergeLeft column
  | .span => f.mayMergeUp row && f.mayMergeLeft column

end Frame

inductive Decision where
  /-- It is merged into a neighbour. -/
  | merge (kind : SpanKind)
  /-- It is a trigger without a cell to merge into, and is written as a blank. -/
  | refuse (kind : SpanKind)
  /-- It is written with its text. -/
  | write
  deriving DecidableEq, Repr

def Frame.decide (f : Frame) (triggers : SpanTriggers) (row column : Nat) (text : String) :
    Decision :=
  match triggers.classify text with
  | none => .write
  | some kind => if f.allows row column kind then .merge kind else .refuse kind

/-- A cell that is written: its position counted from 0, its text and its spans. -/
structure Placement where
  row : Nat
  column : Nat
  text : String
  colspan : Nat
  rowspan : Nat
  deriving DecidableEq, Repr

structure Refusal where
  row : Nat
  column : Nat
  kind : SpanKind
  deriving DecidableEq, Repr

def blankText : String := "&nbsp;"

/-- The state of the walk within a row: the span to the left so far, the spans upwards of the columns
passed, and what was written and refused, from left to right and from right to left. -/
structure RowWalk where
  colspan : Nat
  rowspans : List Nat
  written : List Placement
  refused : List Refusal
  deriving DecidableEq, Repr

def RowWalk.write (w : RowWalk) (row column rowspan : Nat) (text : String) : RowWalk :=
  { w with
    colspan := 1
    rowspans := 1 :: w.rowspans
    written := ⟨row, column, text, w.colspan, rowspan⟩ :: w.written }

namespace Frame

/-- The walk along the cells of a row from a column on, `counts` being the spans upwards of these
columns from below. -/
def walkCells (f : Frame) (triggers : SpanTriggers) (row : Nat) :
    (column : Nat) → List String → (counts : List Nat) → RowWalk
  | _, [], _ => ⟨1, [], [], []⟩
  | column, text :: cells, counts =>
    let right := f.walkCells triggers row (column + 1) cells counts.tail
    let count := counts.headD 1
    match f.decide triggers row column text with
    | .merge .rowspan => { right with colspan := 1, rowspans := (count + 1) :: right.rowspans }
    | .merge .colspan =>
      { right with colspan := right.colspan + 1, rowspans := 1 :: right.rowspans }
    | .merge .span => { right with rowspans := count :: right.rowspans }
    | .refuse kind =>
      { right.write row column count blankText with
        refused := right.refused ++ [⟨row, column, kind⟩] }
    | .write => right.write row column count text

end Frame

/-- The state of the walk between rows: the spans upwards of all columns, what was written in each
row passed, and what was refused, from the bottom right on. -/
structure GridWalk where
  rowspans : List Nat
  written : List (List Placement)
  refused : List Refusal
  deriving DecidableEq, Repr

namespace Frame

def walkRows (f : Frame) (triggers : SpanTriggers) (width : Nat) :
    (row : Nat) → List (List String) → GridWalk
  | _, [] => ⟨List.replicate width 1, [], []⟩
  | row, cells :: rows =>
    let below := f.walkRows triggers width (row + 1) rows
    let w := f.walkCells triggers row 0 cells below.rowspans
    ⟨w.rowspans, w.written :: below.written, below.refused ++ w.refused⟩

/-- The walk through a grid, short rows filled up with empty cells. -/
def walk (f : Frame) (triggers : SpanTriggers) (grid : Grid) : GridWalk :=
  f.walkRows triggers grid.width 0 grid.padded

end Frame
end SheetMarkup
