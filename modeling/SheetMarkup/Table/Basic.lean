import SheetMarkup.Grid.Basic

/-!
# Tables — a grid with its name, description and visibility flags
-/

namespace SheetMarkup

/-- Flags of rows and columns; what has no flag is visible. -/
structure Visibility where
  rows : List Bool := []
  columns : List Bool := []
  deriving DecidableEq, Repr, Inhabited

namespace Visibility

def allVisible (rows columns : Nat) : Visibility :=
  ⟨List.replicate rows true, List.replicate columns true⟩

def isRowVisible (v : Visibility) (row : Nat) : Bool :=
  v.rows[row]?.getD true

def isColumnVisible (v : Visibility) (column : Nat) : Bool :=
  v.columns[column]?.getD true

end Visibility

structure Table where
  id : String := ""
  name : String := ""
  description : String := ""
  data : Grid := []
  visibility : Visibility := {}
  deriving DecidableEq, Repr, Inhabited

namespace Table

def isVoid (t : Table) : Bool :=
  t.data.isVoid

def padded (t : Table) : Table :=
  { t with data := t.data.padded }

end Table
end SheetMarkup
