/-!
# Span triggers — cell texts that ask for a merge
-/

namespace SheetMarkup

/-- Where a cell asks to be merged into: the cell above, the one to the left, or both. -/
inductive SpanKind where
  | rowspan
  | colspan
  | span
  deriving DecidableEq, Repr

/-- The texts that ask for a merge. An empty one never does. -/
structure SpanTriggers where
  rowspan : String := "#rowspan#"
  colspan : String := "#colspan#"
  span : String := "#span#"
  deriving DecidableEq, Repr, Inhabited

namespace SpanTriggers

/-- What a cell text asks for; of equal triggers the first one counts. -/
def classify (t : SpanTriggers) (text : String) : Option SpanKind :=
  if text = "" then none
  else if text = t.rowspan then some .rowspan
  else if text = t.colspan then some .colspan
  else if text = t.span then some .span
  else none

def keyword (t : SpanTriggers) : SpanKind → String
  | .rowspan => t.rowspan
  | .colspan => t.colspan
  | .span => t.span

end SpanTriggers
end SheetMarkup
