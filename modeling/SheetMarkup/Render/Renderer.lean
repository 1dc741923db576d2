import SheetMarkup.Formula.Resolver
import SheetMarkup.Markup.Emit
import SheetMarkup.Table.Filter

/-!
# Renderer — from a table to markup

A table is filtered, its formulas are resolved on what is left, the result is laid out and the layout
is written. Hidden cells are gone before any formula is looked at.

* `Renderer`: a table and its options, with all that a render depends on
* `Renderer.render`: the markup and the warnings
* `Renderer.data`: the grid as it is laid out
-/

namespace SheetMarkup

structure Renderer where
  hooks : RenderHooks := {}
  evaluate : Evaluator := arithmetic
  site : SiteDefaults := {}
  maxDepth : Nat := defaultMaxDepth
  table : Table := {}
  options : RenderOptions := {}

structure Rendered where
  markup : String
  warnings : List Warning
  deriving DecidableEq, Repr

structure Prepared where
  table : Table
  settings : RenderSettings
  warnings : List Warning
  deriving DecidableEq, Repr

def formulaCells (grid : Grid) : List (Nat × Nat) :=
  grid.positions.filter fun (row, column) =>
    match grid.cell? row column with
    | some text => text.toList.head? == some '='
    | none => false

/-- The warning about a formula, if its cell ends as an error marker. -/
def formulaWarning? (grid : Grid) (position : Nat × Nat) : Option Warning :=
  match grid.cell? position.1 position.2 with
  | some text =>
    if isMarker text then
      some
        { kind := .formula, message := text
          row := some (position.1 + 1), column := some (position.2 + 1) }
    else none
  | none => none

namespace Renderer

/-- The table of a render, with the id that the options ask for; an empty id and `0` ask for
nothing. -/
def namedTable (r : Renderer) : Table :=
  match r.options.id with
  | some id => if id = "" || id = "0" then r.table else { r.table with id }
  | none => r.table

def shownTable (r : Renderer) : Table :=
  let table := r.namedTable.filter (r.options.resolve r.site)
  { table with data := (r.hooks.filteredData table.id table.data).padded }

/-- The table as it is laid out, with the warnings about its formulas. -/
def prepare (r : Renderer) : Prepared :=
  let settings := r.options.resolve r.site
  let table := r.shownTable
  if table.isVoid then { table, settings, warnings := [] }
  else
    let data := Resolver.evaluateTable ⟨r.evaluate, r.maxDepth⟩ table.data
    { table := { table with data := (r.hooks.evaluatedData table.id data).padded }
      settings
      warnings := (formulaCells table.data).filterMap (formulaWarning? data) }

def emptyWarning (id : String) : Warning where
  kind := .empty
  message := "the table with ID " ++ id ++ " has no visible cells"

def render (r : Renderer) : Rendered :=
  let p := r.prepare
  let id := p.table.id
  if p.table.isVoid then
    { markup := Markup.emptyTableComment id, warnings := p.warnings ++ [emptyWarning id] }
  else
    let (layout, engine) := (LayoutEngine.start id p.settings r.hooks).layout p.table.data
    { markup := r.hooks.output id (Markup.tableMarkup p.table layout p.settings r.hooks)
      warnings := p.warnings ++ engine.warnings }

def data (r : Renderer) : Grid :=
  r.prepare.table.data

end Renderer
end SheetMarkup
