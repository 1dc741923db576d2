import SheetMarkup.Expression.Machine
import SheetMarkup.Formula.Error
import SheetMarkup.Formula.Range
import SheetMarkup.Text.Replace

/-!
# Resolver — formulas to values, in place

A cell that starts with an equals sign is a formula. Its ranges are expanded, then its references
are resolved one after another, in order of first occurrence, and each is replaced by the value of
the cell it names; the evaluator computes what is left. The value of every referenced cell is
written into the grid on the way, so that no cell is computed twice.

The chain of references that led to a formula is carried along. A reference that is in the chain
already is circular. A chain that has reached the ceiling is not followed further: that failure says
nothing about the cell, so it is not written into the grid, and a sweep over the whole table tries
such cells again when others have been filled in.

* `Resolver`: the evaluator and the ceiling
* `Resolver.resolve`: one formula text under a chain of references
* `Resolver.evaluateAt`: one cell of a grid
* `Resolver.evaluateTable`: all cells of a grid
-/

namespace SheetMarkup

structure Resolver where
  evaluate : Evaluator
  maxDepth : Nat

def defaultMaxDepth : Nat := 256

structure Resolution where
  outcome : Except FormulaError String
  grid : Grid

def cellText : Except FormulaError String → String
  | .ok value => value
  | .error error => error.marker

def hasAdjacentBrackets : List Char → Bool
  | ']' :: '[' :: _ => true
  | _ :: cs => hasAdjacentBrackets cs
  | [] => false

/-- A formula without blanks and with each of its ranges expanded for a grid. -/
def expandRanges (grid : Grid) (expression : List Char) : List Char :=
  (rangeTokens expression).foldl
    (fun text range => Text.replaceAll range.token (range.expand grid.length grid.width) text)
    expression

/-- The references of an expression as it is sent to substitution: ranges expanded, blanks gone, or
the reason why the formula is not a formula at all. -/
def prepare (grid : Grid) (formula : List Char) : Except FormulaError (List Char) :=
  if formula.contains '=' then .error .tooManyEquals
  else if hasAdjacentBrackets formula then .error .adjacentReferences
  else .ok (expandRanges grid (formula.filter fun c => !Text.isBlank c))

namespace Resolver

abbrev Descent := (chain : List String) → (content : String) → Grid → Resolution

/-- The value of one reference: the outcome of the cell it names, written into the grid unless the
chain was cut off. -/
def follow (r : Resolver) (descend : Descent) (chain : List String) (reference : Corner)
    (grid : Grid) : Resolution :=
  let canonical := reference.canonical
  if chain.contains canonical then ⟨.error .circularReference, grid⟩
  else
    match reference.position?.bind fun (row, column) =>
        (grid.cell? row column).map fun content => (row, column, content) with
    | none => ⟨.error (.nonExistentCell canonical), grid⟩
    | some (row, column, content) =>
      if r.maxDepth ≤ chain.length then ⟨.error (.recursionLimit r.maxDepth), grid⟩
      else
        match descend (chain ++ [canonical]) content grid with
        | ⟨.error (.recursionLimit depth), grid⟩ => ⟨.error (.recursionLimit depth), grid⟩
        | ⟨outcome, grid⟩ =>
          let value := cellText outcome
          let grid := grid.set row column value
          match FormulaError.ofMarker? value with
          | some error => ⟨.error error, grid⟩
          | none => ⟨.ok value, grid⟩

/-- An expression with references replaced by their values, one after another, up to the first that
fails. -/
def substitute (r : Resolver) (descend : Descent) (chain : List String) :
    List Corner → List Char → Grid → Except FormulaError (List Char) × Grid
  | [], expression, grid => (.ok expression, grid)
  | reference :: rest, expression, grid =>
    match r.follow descend chain reference grid with
    | ⟨.error error, grid⟩ => (.error error, grid)
    | ⟨.ok value, grid⟩ =>
      r.substitute descend chain rest
        (Text.replaceAll reference.token value.toList expression) grid

def compute (r : Resolver) (expression : List Char) : Except FormulaError String :=
  match r.evaluate (String.ofList expression) with
  | .ok value => .ok value
  | .error error => .error (.evaluationFailed error.message)

/-- The result of a cell content, `descend` resolving what it refers to. Text that is not a formula
is its own value. -/
def resolveWith (r : Resolver) (descend : Descent) (chain : List String) (content : String)
    (grid : Grid) : Resolution :=
  match content.toList with
  | '=' :: formula =>
    match prepare grid formula with
    | .error error => ⟨.error error, grid⟩
    | .ok expression =>
      match r.substitute descend chain (references expression) expression grid with
      | (.error error, grid) => ⟨.error error, grid⟩
      | (.ok expression, grid) => ⟨r.compute expression, grid⟩
  | _ => ⟨.ok content, grid⟩

def descend (r : Resolver) : (levels : Nat) → Descent
  | 0 => fun _ _ grid => ⟨.error (.recursionLimit r.maxDepth), grid⟩
  | levels + 1 => r.resolveWith (r.descend levels)

/-- The result of a cell content under a chain of references. As many further references are
followed as the chain has room for. -/
def resolve (r : Resolver) (chain : List String) (content : String) (grid : Grid) : Resolution :=
  r.resolveWith (r.descend (r.maxDepth - chain.length)) chain content grid

def evaluateContent (r : Resolver) (chain : List String) (content : String) (grid : Grid) :
    String × Grid :=
  let ⟨outcome, grid⟩ := r.resolve chain content grid
  (cellText outcome, grid)

/-- The cell at a position, resolved and written back whatever the result; nothing outside the
grid. -/
def evaluateAt (r : Resolver) (row column : Nat) (grid : Grid) : Option (String × Grid) :=
  (grid.cell? row column).map fun content =>
    let (text, grid) := r.evaluateContent [] content grid
    (text, grid.set row column text)

/-- The cell at a position, resolved and written back unless the chain was cut off, and whether it
was written. -/
def settle (r : Resolver) (row column : Nat) (grid : Grid) : Bool × Grid :=
  match grid.cell? row column with
  | none => (true, grid)
  | some content =>
    match r.resolve [] content grid with
    | ⟨.error (.recursionLimit _), grid⟩ => (false, grid)
    | ⟨outcome, grid⟩ => (true, grid.set row column (cellText outcome))

/-- One sweep over positions; those whose chain was cut off are kept for later. -/
def sweep (r : Resolver) : List (Nat × Nat) → Grid → List (Nat × Nat) × Grid
  | [], grid => ([], grid)
  | (row, column) :: rest, grid =>
    let (settled, grid) := r.settle row column grid
    let (kept, grid) := r.sweep rest grid
    (if settled then kept else (row, column) :: kept, grid)

/-- Sweeps until one settles nothing, at most `rounds` of them; every other one leaves fewer
positions than it found. -/
def sweepAgain (r : Resolver) : (rounds : Nat) → List (Nat × Nat) → Grid → List (Nat × Nat) × Grid
  | 0, positions, grid => (positions, grid)
  | rounds + 1, positions, grid =>
    let (kept, grid) := r.sweep positions grid
    if kept.length = positions.length then (kept, grid) else r.sweepAgain rounds kept grid

/-- All cells, row by row. What is cut off after the last sweep shows that the chain is too long. -/
def evaluateTable (r : Resolver) (grid : Grid) : Grid :=
  let (kept, grid) := r.sweep grid.positions grid
  let (kept, grid) := r.sweepAgain kept.length kept grid
  kept.foldl
    (fun grid (row, column) => grid.set row column (FormulaError.recursionLimit r.maxDepth).marker)
    grid

end Resolver
end SheetMarkup
