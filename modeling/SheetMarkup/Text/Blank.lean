/-!
# Blanks — white space and the texts around it

White space is the Unicode property White_Space. A text is trimmed of it at both ends, cut at it
into words, or freed of it altogether.

* `isBlank`: the property
* `trimStart`, `trim`: a text without the blanks at its start, or at both ends
* `words`: the maximal runs of other characters
-/

namespace SheetMarkup.Text

/-- White space: the property White_Space of the Unicode character database. -/
def isBlank (c : Char) : Bool :=
  c = ' ' || ('\t' ≤ c && c ≤ '\r') || c = '\u0085' || c = '\u00A0' || c = '\u1680'
    || ('\u2000' ≤ c && c ≤ '\u200A') || c = '\u2028' || c = '\u2029' || c = '\u202F'
    || c = '\u205F' || c = '\u3000'

def dropBlanks (cs : List Char) : List Char :=
  cs.dropWhile isBlank

def trimBlanks (cs : List Char) : List Char :=
  (dropBlanks (dropBlanks cs).reverse).reverse

def trimStart (text : String) : String :=
  String.ofList (dropBlanks text.toList)

def trim (text : String) : String :=
  String.ofList (trimBlanks text.toList)

/-- The words of `cs`, the first of them continuing the word held in `current` in reverse. -/
def wordsFrom (current : List Char) : List Char → List (List Char)
  | [] => if current.isEmpty then [] else [current.reverse]
  | c :: cs =>
    if isBlank c then
      if current.isEmpty then wordsFrom [] cs else current.reverse :: wordsFrom [] cs
    else wordsFrom (c :: current) cs

/-- The maximal runs of characters that are not blank, in order. -/
def words (text : String) : List String :=
  (wordsFrom [] text.toList).map String.ofList

end SheetMarkup.Text
