import Mathlib.Data.List.Basic
import SheetMarkup.Layout.Engine
import SheetMarkup.Proofs.Layout.Refusals

/-!
# Contents — every cell of a grid is written once or merged

A layout has the rows of its grid, each of them once, from the first to the last. Along a row a text that asks for
nothing is written, a trigger with a cell to merge into is not, and one without is written as a blank and told in
a warning. So what a row shows, and what is warned about, can be read off the grid position by position.

* `Frame.contentAt?`, `Frame.warningAt?`: what is written at a position, and what is warned about
* `decisionAt_eq`: what becomes of a cell, by the cell that it can be merged into
* `header_layout`, `footer_layout`: the first and the last row as header and footer
* `map_rows_layout`, `warnings_layout`: rows and warnings as functions of the positions
* `layout_contents`: the rows, cells and warnings of a layout
-/

namespace SheetMarkup

namespace Frame

variable {f : Frame} {triggers : SpanTriggers} {grid : Grid} {row column : Nat}

/-- What is written at a position: the text made safe, short rows going on with empty cells, a blank for a trigger
without a cell to merge into, and nothing for one that is merged. -/
def contentAt? (f : Frame) (triggers : SpanTriggers) (grid : Grid) (row column : Nat) :
    Option String :=
  match triggers.classify (grid.textAt row column) with
  | none => some (Markup.safeText (grid.textAt row column) true)
  | some kind => if f.HasTarget row column kind then none else some blankText

/-- The warning about a position: there is one for a trigger without a cell to merge into. -/
def warningAt? (f : Frame) (triggers : SpanTriggers) (grid : Grid) (row column : Nat) :
    Option Warning :=
  match triggers.classify (grid.textAt row column) with
  | none => none
  | some kind =>
    if f.HasTarget row column kind then none
    else
      some
        { kind := .span
          message := "'" ++ grid.textAt row column ++ "' has no cell to merge into"
          row := some (row + 1)
          column := some (column + 1) }

/-- What becomes of a cell depends on its text and on the cell that it can be merged into. -/
theorem decisionAt_eq (hrow : row < f.rows) :
    f.decisionAt triggers grid row column =
      match triggers.classify (grid.textAt row column) with
      | none => .write
      | some kind => if f.HasTarget row column kind then .merge kind else .refuse kind := by
  unfold decisionAt decide
  cases triggers.classify (grid.textAt row column) with
  | none => rfl
  | some kind => simp only [allows_iff_hasTarget hrow]

end Frame

namespace LayoutEngine

/-! ## Header, body and footer -/

theorem header_assemble (f : Frame) (rows : List LayoutRow) :
    (assemble f rows).1 = if f.head then rows.head? else none := by
  unfold assemble
  cases f.head <;> cases f.foot <;> rfl

/-- The footer is the last row, if it is not the header. -/
theorem footer_assemble {f : Frame} {rows : List LayoutRow} (h : f.foot = true → rows.length ≠ 1) :
    (assemble f rows).2.2 = if f.foot then rows.getLast? else none := by
  unfold assemble
  cases hfoot : f.foot with
  | false => cases f.head <;> rfl
  | true =>
    cases f.head with
    | false => rfl
    | true => simp only [if_true, List.getLast?_tail, h hfoot, if_false]

/-- Taking the header off the front and the footer off the end loses no row. -/
theorem rows_assemble (f : Frame) (rows : List LayoutRow) :
    (assemble f rows).1.toList ++ (assemble f rows).2.1 ++ (assemble f rows).2.2.toList = rows := by
  have hhead : rows.head?.toList ++ rows.tail = rows := by cases rows <;> rfl
  have hlast : ∀ rows : List LayoutRow, rows.dropLast ++ rows.getLast?.toList = rows := by
    intro rows
    rcases List.eq_nil_or_concat rows with rfl | ⟨front, last, rfl⟩
    · rfl
    · simp
  unfold assemble
  cases f.head <;> cases f.foot <;> simp [hhead, hlast]

/-! ## Rows -/

variable (e : LayoutEngine) (grid : Grid)

/-- The header, the body and the footer are all the rows. -/
theorem rows_layout :
    (e.layout grid).1.rows =
      ((e.frame grid).walk e.triggers grid).written.zipIdx.map
        fun (placements, index) => e.row (e.frame grid) index placements :=
  rows_assemble _ _

/-- The rows of a layout are those of the grid, each with the cells that are written in it. -/
theorem rows_layout_eq_map_range :
    (e.layout grid).1.rows = (List.range grid.length).map fun row =>
      e.row (e.frame grid) row
        ((List.range grid.width).filterMap ((e.frame grid).placementAt? e.triggers grid row)) := by
  rw [rows_layout, Frame.walk_written]
  apply List.ext_getElem
  · simp
  · intro row hrow hrow'
    simp

theorem length_rows_layout : (e.layout grid).1.rows.length = grid.length := by
  simp [rows_layout_eq_map_range]

theorem header_layout :
    (e.layout grid).1.header =
      if (e.frame grid).head then (e.layout grid).1.rows.head? else none := by
  rw [rows_layout]
  exact header_assemble _ _

theorem footer_layout :
    (e.layout grid).1.footer =
      if (e.frame grid).foot then (e.layout grid).1.rows.getLast? else none := by
  have hlength := length_rows_layout e grid
  rw [rows_layout] at hlength ⊢
  refine footer_assemble fun hfoot => ?_
  -- A footer needs two rows at least, so the header has not taken the last one.
  have hrows : 1 < grid.length := by
    simp only [frame, Bool.and_eq_true, decide_eq_true_eq] at hfoot
    exact hfoot.1
  exact fun hone => absurd (hlength.symm.trans hone) (Nat.ne_of_gt hrows)

/-! ## Cells and warnings -/

/-- A cell that is written shows what stands at its position. -/
theorem map_placementAt?_eq_contentAt? (tableId : String) (settings : RenderSettings)
    (choose : String → SpanTriggers → SpanTriggers) {f : Frame} {triggers : SpanTriggers} {row : Nat}
    (hrow : row < f.rows) (part : Section) (column : Nat) :
    (f.placementAt? triggers grid row column).map (fun p =>
        let cell := (start tableId settings { spanTriggers := choose }).cell part p
        (cell.cssClass, cell.content)) =
      (f.contentAt? triggers grid row column).map (("column-" ++ toString (column + 1)), ·) := by
  -- The blank passes through the same check as the texts of the grid, which leaves it as it is.
  have hblank : Markup.safeText blankText true = blankText := by decide
  unfold Frame.placementAt? Frame.contentAt?
  rw [Frame.decisionAt_eq hrow]
  cases triggers.classify (grid.textAt row column) with
  | none => rfl
  | some kind =>
    by_cases htarget : f.HasTarget row column kind
    · simp [htarget]
    · simp only [if_neg htarget, Option.map_some]
      exact congrArg (fun text => some ("column-" ++ toString (column + 1), text)) hblank

theorem map_refusalAt?_eq_warningAt? {f : Frame} {row : Nat} (hrow : row < f.rows) (column : Nat) :
    (f.refusalAt? e.triggers grid row column).map e.warning =
      f.warningAt? e.triggers grid row column := by
  unfold Frame.refusalAt? Frame.warningAt?
  rw [Frame.decisionAt_eq hrow]
  cases hclassify : e.triggers.classify (grid.textAt row column) with
  | none => rfl
  | some kind =>
    by_cases htarget : f.HasTarget row column kind
    · simp [htarget]
    · simp [htarget, warning, SpanTriggers.eq_keyword_of_classify hclassify]

/-- The rows of a layout, told by the classes and the contents of their cells. -/
theorem map_rows_layout (tableId : String) (settings : RenderSettings)
    (choose : String → SpanTriggers → SpanTriggers) :
    let e := LayoutEngine.start tableId settings { spanTriggers := choose }
    ((e.layout grid).1.rows.map fun row =>
        (row.index, row.cells.map fun cell => (cell.cssClass, cell.content))) =
      (List.range grid.length).map fun row => (row + 1,
        (List.range grid.width).filterMap fun column =>
          ((e.frame grid).contentAt? e.triggers grid row column).map
            (("column-" ++ toString (column + 1)), ·)) := by
  intro e
  rw [rows_layout_eq_map_range, List.map_map]
  apply List.map_congr_left
  intro row hrow
  have hlt : row < (e.frame grid).rows := List.mem_range.1 hrow
  simp only [Function.comp_apply, LayoutEngine.row, List.map_filterMap, Option.map_map]
  refine congrArg (row + 1, ·) (List.filterMap_congr fun column _ => ?_)
  exact map_placementAt?_eq_contentAt? grid tableId settings choose hlt _ column

/-- The warnings of a layout come after those of the layouts before. -/
theorem warnings_layout :
    (e.layout grid).2.warnings = e.warnings ++ (List.range grid.length).reverse.flatMap fun row =>
      (List.range grid.width).reverse.filterMap ((e.frame grid).warningAt? e.triggers grid row) := by
  have hwarnings : (e.layout grid).2.warnings =
      e.warnings ++ ((e.frame grid).walk e.triggers grid).refused.map e.warning := rfl
  rw [hwarnings, Frame.walk_refused, List.map_flatMap]
  refine congrArg (e.warnings ++ ·) (List.flatMap_congr fun row hrow => ?_)
  have hlt : row < (e.frame grid).rows := List.mem_range.1 (List.mem_reverse.1 hrow)
  rw [List.map_filterMap]
  exact List.filterMap_congr fun column _ => map_refusalAt?_eq_warningAt? e grid hlt column

/-- A header or a footer is there if it is asked for, and then it is the row at its end. -/
theorem isSome_and_mem_of_eq_ite {part : Option LayoutRow} {asked : Bool} {atEnd : Option LayoutRow}
    (hpart : part = if asked then atEnd else none) (hsome : asked = true → atEnd.isSome = true) :
    (part.isSome = true ↔ asked = true) ∧ ∀ row ∈ part, atEnd = some row := by
  cases asked with
  | true =>
    subst hpart
    exact ⟨⟨fun _ => rfl, fun _ => hsome rfl⟩, fun _ hrow => hrow⟩
  | false => simp [hpart]

/-- No cell is lost, doubled or moved: whatever the settings and the triggers are, a layout has each row of its
grid once and in order, and in it what `contentAt?` gives from left to right, under the class of its column. Its
warnings are those of `warningAt?` from the bottom right to the top left. -/
theorem layout_contents (tableId : String) (settings : RenderSettings)
    (choose : String → SpanTriggers → SpanTriggers) (grid : Grid) :
    let e := LayoutEngine.start tableId settings { spanTriggers := choose }
    let f := e.frame grid
    let out := (e.layout grid).1
    (out.rows.map fun row => (row.index, row.cells.map fun cell => (cell.cssClass, cell.content))) =
        ((List.range grid.length).map fun row => (row + 1,
          (List.range grid.width).filterMap fun column =>
            (f.contentAt? e.triggers grid row column).map
              (("column-" ++ toString (column + 1)), ·))) ∧
      (out.header.isSome = true ↔ 1 < grid.length ∧ settings.tableHead = true) ∧
      (∀ row ∈ out.header, out.rows.head? = some row) ∧
      (out.footer.isSome = true ↔ 1 < grid.length ∧ settings.tableFoot = true) ∧
      (∀ row ∈ out.footer, out.rows.getLast? = some row) ∧
      (e.layout grid).2.warnings = (List.range grid.length).reverse.flatMap fun row =>
        (List.range grid.width).reverse.filterMap (f.warningAt? e.triggers grid row) := by
  intro e f out
  have hlength : out.rows.length = grid.length := length_rows_layout e grid
  have hhead : f.head = true ↔ 1 < grid.length ∧ settings.tableHead = true := by
    simp [f, e, frame, start]
  have hfoot : f.foot = true ↔ 1 < grid.length ∧ settings.tableFoot = true := by
    simp [f, e, frame, start]
  have hrows : 1 < grid.length → out.rows ≠ [] := fun hlt => by
    rw [← List.length_pos_iff, hlength]
    omega
  rcases isSome_and_mem_of_eq_ite (header_layout e grid)
    fun h => List.isSome_head?.2 (hrows (hhead.1 h).1) with ⟨hheader, hfirst⟩
  rcases isSome_and_mem_of_eq_ite (footer_layout e grid)
    fun h => List.getLast?_isSome.2 (hrows (hfoot.1 h).1) with ⟨hfooter, hlast⟩
  exact ⟨map_rows_layout grid tableId settings choose, hheader.trans hhead, hfirst,
    hfooter.trans hfoot, hlast, warnings_layout e grid⟩

end LayoutEngine
end SheetMarkup
