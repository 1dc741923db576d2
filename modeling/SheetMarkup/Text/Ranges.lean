/-!
# Code point ranges — membership in a table of closed ranges
-/

namespace SheetMarkup.Text

def inRanges (ranges : List (Nat × Nat)) (code : Nat) : Bool :=
  ranges.any fun (first, last) => first ≤ code && code ≤ last

end SheetMarkup.Text
