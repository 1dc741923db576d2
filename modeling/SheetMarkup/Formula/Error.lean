import SheetMarkup.Text.Blank

/-!
# Formula errors — why a formula has no value, and how a cell shows it

A formula that fails still fills its cell, with a marker text that starts in a fixed way and ends in
the reason. A cell that refers to such a cell fails for the same reason.

* `FormulaError`: the reasons
* `FormulaError.marker`, `FormulaError.ofMarker?`: to the marker text and back
-/

namespace SheetMarkup

inductive FormulaError where
  /-- There is a second equals sign in the formula. -/
  | tooManyEquals
  /-- Two references stand next to each other without an operator. -/
  | adjacentReferences
  /-- The referenced cell is already being resolved further up the chain. -/
  | circularReference
  /-- The reference points outside the grid. -/
  | nonExistentCell (token : String)
  /-- The chain of references is longer than the ceiling. -/
  | recursionLimit (depth : Nat)
  /-- The evaluator rejected the expression. -/
  | evaluationFailed (reason : String)
  /-- The referenced cell holds an error marker. -/
  | propagated (reason : String)
  deriving DecidableEq, Repr

def markerStart : String := "!ERROR!"

def isMarker (text : String) : Bool :=
  markerStart.toList.isPrefixOf text.toList

namespace FormulaError

def reason : FormulaError → String
  | .tooManyEquals => "Too many '=' in formula"
  | .adjacentReferences => "Two cell references next to each other are not allowed"
  | .circularReference => "Circular Reference"
  | .nonExistentCell token => "Cell " ++ token ++ " does not exist"
  | .recursionLimit depth =>
    "Cell references are nested deeper than " ++ toString depth ++ " levels"
  | .evaluationFailed reason => reason
  | .propagated reason => reason

def marker (error : FormulaError) : String :=
  markerStart ++ " " ++ error.reason

def ofMarker? (text : String) : Option FormulaError :=
  (markerStart.toList.isPrefixOf? text.toList).map fun rest =>
    .propagated (String.ofList (Text.dropBlanks rest))

end FormulaError
end SheetMarkup
