import SheetMarkup.Grid.Basic

/-!
# Reading comma-separated values

Records end at a line feed, a carriage return or both, and empty lines are no records. A field is
quoted only if its first character is a quote. Inside, two quotes stand for one; behind the closing
quote the rest of the field is taken as it is. A quoted field that is never closed goes on to the end
of the text.

* `Position`: where the reader stands
* `recordsFrom`: the records of a text
* `Csv.parse`: the grid of a text
-/

namespace SheetMarkup.Csv

inductive Position where
  /-- Between records. -/
  | between
  /-- Before the first character of a field. -/
  | fieldStart
  /-- In a field, or in the part of it behind a closing quote. -/
  | plain
  | quoted
  /-- Behind a quote in a quoted field, which may be the closing one. -/
  | behindQuote
  deriving DecidableEq, Repr

def isLineEnd (c : Char) : Bool :=
  c == '\n' || c == '\r'

def cellOf (field : List Char) : String :=
  String.ofList field.reverse

/-- The records from a position on. The characters of the current field and the cells of the current
record are held in reverse. -/
def recordsFrom (place : Position) (field : List Char) (record : List String) : List Char → Grid
  | [] => if place = .between then [] else [(cellOf field :: record).reverse]
  | c :: cs =>
    if place = .quoted then
      if c = '"' then recordsFrom .behindQuote field record cs
      else recordsFrom .quoted (c :: field) record cs
    else if place = .behindQuote && c == '"' then recordsFrom .quoted (c :: field) record cs
    else if isLineEnd c then
      if place = .between then recordsFrom .between [] [] cs
      else (cellOf field :: record).reverse :: recordsFrom .between [] [] cs
    else if c = ',' then recordsFrom .fieldStart [] (cellOf field :: record) cs
    else if c = '"' && (place = .between || place = .fieldStart) then
      recordsFrom .quoted [] record cs
    else recordsFrom .plain (c :: field) record cs

/-- The grid of a text; a mark of byte order at its start does not count. -/
def parse (text : String) : Grid :=
  match text.toList with
  | '\uFEFF' :: cs => recordsFrom .between [] [] cs
  | cs => recordsFrom .between [] [] cs

end SheetMarkup.Csv
