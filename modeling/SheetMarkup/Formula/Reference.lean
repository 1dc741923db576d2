import SheetMarkup.Grid.Address
import SheetMarkup.Grid.Basic

/-!
# References in a formula

A reference is a pair of column letters and row digits in brackets, a range two of them with a colon
between. No reference starts inside another one, so all of them are found by looking at each
character in turn.

* `Corner`, `RangeToken`: the parts of a reference and of a range
* `references`, `rangeTokens`: what a text refers to, in order and without repetition
* `Corner.position?`: the cell a reference names
-/

namespace SheetMarkup

structure Corner where
  letters : List Char
  digits : List Char
  deriving DecidableEq, Repr

/-- A letter of either case, or one of the two other characters that the letters S and K match when
case is ignored. -/
def isColumnLetter (c : Char) : Bool :=
  c.isAlpha || c == '\u017F' || c == '\u212A'

def Corner.read? (cs : List Char) : Option (Corner × List Char) :=
  let letters := cs.takeWhile isColumnLetter
  let rest := cs.dropWhile isColumnLetter
  let digits := rest.takeWhile Char.isDigit
  if letters.isEmpty || digits.isEmpty then none
  else some (⟨letters, digits⟩, rest.dropWhile Char.isDigit)

namespace Corner

def token (corner : Corner) : List Char :=
  '[' :: corner.letters ++ corner.digits ++ [']']

/-- The number of the column; letters beyond the basic ones do not count. -/
def column (corner : Corner) : Nat :=
  columnNumber corner.letters

def row? (corner : Corner) : Option Nat :=
  readDigits corner.digits

def position? (corner : Corner) : Option (Nat × Nat) :=
  match corner.row?, corner.column with
  | some (row + 1), column + 1 => some (row, column)
  | _, _ => none

end Corner

def referenceAt? : List Char → Option Corner
  | '[' :: cs =>
    match Corner.read? cs with
    | some (corner, ']' :: _) => some corner
    | _ => none
  | _ => none

/-- Two corners with a colon between, either of them first. -/
structure RangeToken where
  first : Corner
  second : Corner
  deriving DecidableEq, Repr

def RangeToken.token (range : RangeToken) : List Char :=
  '[' :: range.first.letters ++ range.first.digits ++ ':' :: range.second.letters
    ++ range.second.digits ++ [']']

def rangeAt? : List Char → Option RangeToken
  | '[' :: cs =>
    match Corner.read? cs with
    | some (first, ':' :: rest) =>
      match Corner.read? rest with
      | some (second, ']' :: _) => some ⟨first, second⟩
      | _ => none
    | _ => none
  | _ => none

/-- What `find?` recognises at any character of a text, from left to right. -/
def occurrences {α : Type} (find? : List Char → Option α) : List Char → List α
  | [] => []
  | c :: cs => (find? (c :: cs)).toList ++ occurrences find? cs

def references (cs : List Char) : List Corner :=
  (occurrences referenceAt? cs).eraseDups

def rangeTokens (cs : List Char) : List RangeToken :=
  (occurrences rangeAt? cs).eraseDups

def upperChar (c : Char) : Char :=
  if c = '\u017F' then 'S' else c.toUpper

/-- The reference in upper case, by which a chain of references is checked for cycles. -/
def Corner.canonical (corner : Corner) : String :=
  String.ofList (corner.token.map upperChar)

end SheetMarkup
