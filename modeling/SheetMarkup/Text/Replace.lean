/-!
# Literal replacement — every occurrence of one text by another

Occurrences are found from left to right and do not overlap. What is put in is not searched again.

* `replaceAll`: all occurrences of a pattern
* `splitOn`: a text cut at every occurrence of a character
-/

namespace SheetMarkup.Text

/-- Replacement in a text whose first `covered` characters belong to an occurrence already
replaced. -/
def replaceFrom (pattern replacement : List Char) : (covered : Nat) → List Char → List Char
  | _, [] => []
  | covered + 1, _ :: cs => replaceFrom pattern replacement covered cs
  | 0, c :: cs =>
    if pattern.isPrefixOf (c :: cs) then
      replacement ++ replaceFrom pattern replacement (pattern.length - 1) cs
    else
      c :: replaceFrom pattern replacement 0 cs

/-- Every occurrence of a nonempty pattern replaced; an empty pattern occurs nowhere. -/
def replaceAll (pattern replacement text : List Char) : List Char :=
  if pattern.isEmpty then text else replaceFrom pattern replacement 0 text

/-- The parts of `cs` between occurrences of `separator`, the first continuing the part held in
`current` in reverse. There is always one part more than there are separators. -/
def splitFrom (separator : Char) (current : List Char) : List Char → List (List Char)
  | [] => [current.reverse]
  | c :: cs =>
    if c = separator then current.reverse :: splitFrom separator [] cs
    else splitFrom separator (c :: current) cs

def splitOn (separator : Char) (cs : List Char) : List (List Char) :=
  splitFrom separator [] cs

end SheetMarkup.Text
