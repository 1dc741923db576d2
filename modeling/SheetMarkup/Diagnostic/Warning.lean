import SheetMarkup.Grid.Address

/-!
# Warnings — what went wrong in a render that still has a result
-/

namespace SheetMarkup

inductive WarningKind where
  /-- A formula ended as an error marker. -/
  | formula
  /-- A span trigger stands where there is nothing to merge into. -/
  | span
  /-- No cell of the table is visible. -/
  | empty
  deriving DecidableEq, Repr

def WarningKind.text : WarningKind → String
  | .formula => "formula"
  | .span => "span"
  | .empty => "empty"

/-- A warning, with the row and column it is about counted from 1 in the grid that is shown. -/
structure Warning where
  kind : WarningKind
  message : String
  row : Option Nat := none
  column : Option Nat := none
  deriving DecidableEq, Repr

namespace Warning

def location? (w : Warning) : Option String :=
  match w.row, w.column with
  | some row, some column => some (String.ofList (columnLetters column) ++ toString row)
  | _, _ => none

def text (w : Warning) : String :=
  match w.location? with
  | some location => "Warning at " ++ location ++ ": " ++ w.message
  | none => "Warning: " ++ w.message

end Warning
end SheetMarkup
