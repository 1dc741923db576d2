import SheetMarkup.Options.Basic
import SheetMarkup.Table.Basic

/-!
# Filter — the part of a table that is shown

A table is cut to a window of rows, and rows and columns that are hidden are left out. Something is
hidden by its flag or by a list of the options, and shown all the same if another list says so.

* `isHidden`: the rule for one row or column
* `Table.window`: the rows between offset and count
* `Table.filter`: the table that is shown
-/

namespace SheetMarkup

/-- Whether a list that counts from 1 names an index that counts from 0. -/
def isListed (indices : List UInt64) (index : Nat) : Bool :=
  indices.any fun i => i.toNat == index + 1

/-- Whether a row or column is hidden by its flag or by a list, and is not listed as shown. -/
def isHidden (flags : List Bool) (hidden shown : List UInt64) (index : Nat) : Bool :=
  (flags[index]? == some false || isListed hidden index) && !isListed shown index

namespace Table

/-- First row of the window and the row behind its last, counted from 0. -/
def window (t : Table) (s : RenderSettings) : Nat × Nat :=
  let start := max s.rowOffset.toNat 1 - 1
  let stop := match s.rowCount with
    | some count => min (start + count.toNat) t.data.length
    | none => t.data.length
  (start, stop)

def shownRows (t : Table) (s : RenderSettings) : List Nat :=
  let (start, stop) := t.window s
  (List.range t.data.length).filter fun row =>
    start ≤ row && row < stop && !isHidden t.visibility.rows s.hideRows s.showRows row

def shownColumns (t : Table) (s : RenderSettings) : List Nat :=
  (List.range t.data.width).filter fun column =>
    !isHidden t.visibility.columns s.hideColumns s.showColumns column

/-- The cells at the given rows and columns, empty where a row is short. -/
def cellsAt (t : Table) (rows columns : List Nat) : Grid :=
  rows.map fun row => columns.map fun column => (t.data.cell? row column).getD ""

/-- The part of the table that is shown: a rectangle in which everything is visible. -/
def filter (t : Table) (s : RenderSettings) : Table :=
  let columns := t.shownColumns s
  let data := if columns.isEmpty then [] else t.cellsAt (t.shownRows s) columns
  { t with data, visibility := .allVisible data.length (data.head?.elim 0 List.length) }

end Table
end SheetMarkup
