import SheetMarkup.Diagnostic.InputError
import SheetMarkup.Grid.Address
import SheetMarkup.Text.Blank
import SheetMarkup.Text.Replace

/-!
# Index lists — rows or columns named in one text

A list such as `1,3-5` names rows or columns, counted from 1. The word `all` names all of them and a
range may start at either end; both stop at the last that exists. Blank parts name nothing.

* `IndexFault`: what is wrong with a part
* `indicesOf`: the numbers that one part names
* `readIndexList`: the numbers that a list names, ascending and each once
-/

namespace SheetMarkup

inductive IndexFault where
  | zero (text : String)
  | notNumber (text : String)
  deriving DecidableEq, Repr

def IndexFault.message : IndexFault → String
  | .zero text => "index list entries are 1-based, got '" ++ text ++ "'"
  | .notNumber text => "'" ++ text ++ "' is not a row or column number"

def readEntry (cs : List Char) : Except IndexFault Nat :=
  let trimmed := Text.trimBlanks cs
  match readIndex trimmed with
  | some 0 => .error (.zero (String.ofList trimmed))
  | some n => .ok n
  | none => .error (.notNumber (String.ofList trimmed))

def isAll (cs : List Char) : Bool :=
  cs.map Char.toLower == ['a', 'l', 'l']

/-- The numbers named by a part of a list, `count` being the last that exists. -/
def indicesOf (part : List Char) (count : Nat) : Except IndexFault (List Nat) :=
  let part := Text.trimBlanks part
  if part.isEmpty then .ok []
  else if isAll part then .ok (List.range' 1 count)
  else if part.contains '-' then do
    let first ← readEntry (part.takeWhile (· != '-'))
    let second ← readEntry ((part.dropWhile (· != '-')).drop 1)
    let low := min first second
    .ok (List.range' low (min (max first second) count + 1 - low))
  else return [← readEntry part]

/-- The numbers named by parts, in order, up to the first part that is wrong. -/
def indicesOfAll (count : Nat) : List (List Char) → Except IndexFault (List Nat)
  | [] => .ok []
  | part :: parts => do
    let first ← indicesOf part count
    let rest ← indicesOfAll count parts
    .ok (first ++ rest)

/-- A sorted list with neighbours that are equal taken once. -/
def withoutRepeats : List Nat → List Nat
  | m :: n :: rest =>
    if m = n then withoutRepeats (n :: rest) else m :: withoutRepeats (n :: rest)
  | ns => ns

def readIndexList (list : String) (count : Nat) : Except InputError (List Nat) :=
  match indicesOfAll count (Text.splitOn ',' list.toList) with
  | .ok indices => .ok (withoutRepeats (indices.mergeSort (· ≤ ·)))
  | .error fault => .error (.invalid fault.message)

end SheetMarkup
