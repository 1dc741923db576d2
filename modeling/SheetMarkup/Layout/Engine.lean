import SheetMarkup.Diagnostic.Warning
import SheetMarkup.Layout.Walk
import SheetMarkup.Markup.SafeText
import SheetMarkup.Options.Basic
import SheetMarkup.Render.Hooks

/-!
# Layout engine — from a grid to rows and cells

The engine takes a grid that has been filtered and evaluated, and gives the layout of its table. It
keeps the warnings of all its layouts until they are taken.

* `LayoutEngine.start`: an engine for one table
* `LayoutEngine.layout`: the layout of a grid
* `LayoutEngine.takeWarnings`: the warnings so far
-/

namespace SheetMarkup

def classStart : String := "gridmark"

structure LayoutEngine where
  tableId : String
  settings : RenderSettings
  hooks : RenderHooks
  triggers : SpanTriggers
  showLineBreaks : Bool
  warnings : List Warning := []

namespace LayoutEngine

/-- An engine without warnings; the hooks are asked for the triggers once. -/
def start (tableId : String) (settings : RenderSettings) (hooks : RenderHooks) : LayoutEngine where
  tableId
  settings
  hooks
  triggers := hooks.spanTriggers tableId {}
  showLineBreaks := hooks.showLineBreaks tableId true

def takeWarnings (e : LayoutEngine) : List Warning × LayoutEngine :=
  (e.warnings, { e with warnings := [] })

/-- The sections of a grid. A grid of one row has a body only. -/
def frame (e : LayoutEngine) (grid : Grid) : Frame where
  rows := grid.length
  head := 1 < grid.length && e.settings.tableHead
  foot := 1 < grid.length && e.settings.tableFoot
  headColumn := e.settings.firstColumnHead

def columnStyle (e : LayoutEngine) (column : Nat) : Option String :=
  match e.settings.columnWidths[column]? with
  | some width => if width = "" then none else some ("width:" ++ width ++ ";")
  | none => none

def cell (e : LayoutEngine) (part : Section) (p : Placement) : LayoutCell :=
  let text := Markup.safeText p.text e.showLineBreaks
  let context : CellContext :=
    { tableId := e.tableId
      row := p.row + 1
      column := p.column + 1
      colspan := p.colspan
      rowspan := p.rowspan
      content := text }
  let content := e.hooks.cellContent context text
  { content
    tag := if part != .body || (p.column == 0 && e.settings.firstColumnHead) then .header else .data
    colspan := p.colspan
    rowspan := p.rowspan
    cssClass :=
      e.hooks.cellClass { context with content } ("column-" ++ toString (p.column + 1))
    style := if p.row = 0 then e.columnStyle p.column else none }

/-- The class of a row: its number, and in the body whether it is an odd or an even row there. -/
def rowClass (e : LayoutEngine) (f : Frame) (row : Nat) : String :=
  let inBody := row + 1 - f.head.toNat
  let stripe :=
    if f.part row = .body && e.settings.alternatingRowColors then
      if inBody % 2 = 1 then " odd" else " even"
    else ""
  e.hooks.rowClass e.tableId (row + 1) ("row-" ++ toString (row + 1) ++ stripe)

def row (e : LayoutEngine) (f : Frame) (index : Nat) (placements : List Placement) : LayoutRow where
  index := index + 1
  part := f.part index
  cssClass := e.rowClass f index
  cells := placements.map (e.cell (f.part index))

def warning (e : LayoutEngine) (r : Refusal) : Warning where
  kind := .span
  message := "'" ++ e.triggers.keyword r.kind ++ "' has no cell to merge into"
  row := some (r.row + 1)
  column := some (r.column + 1)

def caption (e : LayoutEngine) : Option Caption :=
  let text := e.hooks.caption e.tableId ""
  if text = "" then none
  else
    let cssClass :=
      classStart ++ "-table-caption " ++ classStart ++ "-table-caption-id-" ++ e.tableId
    some { text, cssClass := e.hooks.captionClass e.tableId cssClass }

def columnGroup (e : LayoutEngine) (width : Nat) : Option (List String) :=
  if e.hooks.columnGroupEnabled e.tableId false then
    some ((List.range' 1 width).map fun column =>
      e.hooks.columnAttributes e.tableId column
        ("class=\"colgroup-column-" ++ toString column ++ "\""))
  else none

def assemble (f : Frame) (rows : List LayoutRow) :
    Option LayoutRow × List LayoutRow × Option LayoutRow :=
  let (header, rest) := if f.head then (rows.head?, rows.tail) else (none, rows)
  if f.foot then (header, rest.dropLast, rest.getLast?) else (header, rest, none)

/-- The layout of a grid, and the engine with the warnings about it. -/
def layout (e : LayoutEngine) (grid : Grid) : TableLayout × LayoutEngine :=
  let f := e.frame grid
  let w := f.walk e.triggers grid
  let (header, body, footer) :=
    assemble f (w.written.zipIdx.map fun (placements, index) => e.row f index placements)
  ({ header, footer, body, caption := e.caption, columnGroup := e.columnGroup grid.width },
    { e with warnings := e.warnings ++ w.refused.map e.warning })

end LayoutEngine
end SheetMarkup
