import SheetMarkup.Proofs.Grid.Cells
import SheetMarkup.Render.Renderer

/-!
# Hidden cells — what is not shown has no influence

A render looks at a table through the filter only. The filter looks at the lengths of the rows, at the
visibility flags, and at the cells that are shown. So two tables that differ in other cells only cannot be
told apart, whatever stands in those cells: a formula with an error, one on a cycle, or a text that a shown
formula seems to refer to.

* `Table.Shows`: a cell in the window, in no hidden row and no hidden column
* `Table.LooksLike`: tables that agree on everything but hidden cells
* `LooksLike.filter_eq`: the filter gives the same table for both
* `render_eq_of_looksLike`: so does a render
-/

namespace SheetMarkup
namespace Table

/-- The cell at a position is shown if there is one: its row lies in the window, and neither its row nor
its column is hidden. -/
structure Shows (t : Table) (s : RenderSettings) (row column : Nat) : Prop where
  start : (t.window s).1 ≤ row
  stop : row < (t.window s).2
  row : isHidden t.visibility.rows s.hideRows s.showRows row = false
  column : isHidden t.visibility.columns s.hideColumns s.showColumns column = false

/-- Two tables have rows of the same lengths, and they differ in cells that are not shown at most. -/
structure LooksLike (s : RenderSettings) (t other : Table) : Prop where
  id : t.id = other.id
  name : t.name = other.name
  description : t.description = other.description
  visibility : t.visibility = other.visibility
  shape : t.data.shape = other.data.shape
  cells : ∀ row column, t.Shows s row column →
    t.data.cell? row column = other.data.cell? row column

variable {s : RenderSettings} {t other : Table} {row column : Nat}

theorem shows_of_mem (hrow : row ∈ t.shownRows s) (hcolumn : column ∈ t.shownColumns s) :
    t.Shows s row column := by
  simp only [shownRows, shownColumns, List.mem_filter, List.mem_range, Bool.and_eq_true,
    decide_eq_true_eq, Bool.not_eq_true'] at hrow hcolumn
  exact ⟨hrow.2.1.1, hrow.2.1.2, hrow.2.2, hcolumn.2⟩

namespace LooksLike

theorem window_eq (h : t.LooksLike s other) : t.window s = other.window s := by
  simp only [window, Grid.length_eq_of_shape_eq h.shape]

theorem shownRows_eq (h : t.LooksLike s other) : t.shownRows s = other.shownRows s := by
  simp only [shownRows, h.window_eq, h.visibility, Grid.length_eq_of_shape_eq h.shape]

theorem shownColumns_eq (h : t.LooksLike s other) : t.shownColumns s = other.shownColumns s := by
  simp only [shownColumns, h.visibility, Grid.width_eq_of_shape_eq h.shape]

/-- The cells that are shown are the same in both tables. -/
theorem cellsAt_eq (h : t.LooksLike s other) :
    t.cellsAt (other.shownRows s) (other.shownColumns s) =
      other.cellsAt (other.shownRows s) (other.shownColumns s) := by
  rw [← h.shownRows_eq, ← h.shownColumns_eq]
  apply List.map_congr_left
  intro row hrow
  apply List.map_congr_left
  intro column hcolumn
  rw [h.cells row column (shows_of_mem hrow hcolumn)]

theorem filter_eq (h : t.LooksLike s other) : t.filter s = other.filter s := by
  cases t with
  | mk id name description data visibility =>
    cases other with
    | mk id' name' description' data' visibility' =>
      -- Apart from the cells only the id and the headings are passed on.
      cases h.id
      cases h.name
      cases h.description
      simp only [filter, h.shownRows_eq, h.shownColumns_eq, h.cellsAt_eq]

end LooksLike
end Table

namespace Renderer

theorem namedTable_looksLike {r : Renderer} {s : RenderSettings} {other : Table}
    (h : r.table.LooksLike s other) :
    r.namedTable.LooksLike s { r with table := other }.namedTable := by
  unfold Renderer.namedTable
  cases r.options.id with
  | none => exact h
  | some id =>
    by_cases hid : (decide (id = "") || decide (id = "0")) = true
    · simpa only [if_pos hid] using h
    · -- Both tables get the id that the options ask for.
      simp only [if_neg hid]
      exact ⟨rfl, h.name, h.description, h.visibility, h.shape, fun row column hshows =>
        h.cells row column ⟨hshows.start, hshows.stop, hshows.row, hshows.column⟩⟩

theorem prepare_eq_of_looksLike (r : Renderer) (other : Table)
    (h : r.table.LooksLike (r.options.resolve r.site) other) :
    { r with table := other }.prepare = r.prepare := by
  have hshown : { r with table := other }.shownTable = r.shownTable := by
    have hfilter := (namedTable_looksLike h).filter_eq
    simp only [shownTable, hfilter]
  simp only [prepare, hshown]

/-- Hidden cells do not influence a render. Two tables that agree on all but cells outside the window, in
hidden rows or in hidden columns have the same markup, the same warnings and the same evaluated grid. -/
theorem render_eq_of_looksLike (r : Renderer) (other : Table)
    (h : r.table.LooksLike (r.options.resolve r.site) other) :
    { r with table := other }.render = r.render ∧ { r with table := other }.data = r.data := by
  have hprepare := prepare_eq_of_looksLike r other h
  constructor
  · simp only [render, hprepare]
  · simp only [data, hprepare]

/-- The cycle in the hidden column is as good as the text in its place, and the shown formula refers to
neither of them: its column has become the first one. -/
theorem render_eq_of_looksLike_hiddenCycle :
    let r : Renderer :=
      { table := { id := "1", data := [["=[A1]", "5", "=[A1]*2"]] }, options := { hideColumns := [1] } }
    let other : Table := { id := "1", data := [["text", "5", "=[A1]*2"]] }
    { r with table := other }.render = r.render ∧ { r with table := other }.data = r.data ∧
      r.data = [["5", "10"]] := by
  intro r other
  have hlooks : r.table.LooksLike (r.options.resolve r.site) other := by
    refine ⟨rfl, rfl, rfl, rfl, rfl, fun row column hshows => ?_⟩
    cases row with
    | succ row => simp [Grid.cell?, r, other]
    | zero =>
      cases column with
      | zero => exact absurd hshows.column (by decide)
      | succ column => simp [Grid.cell?, r, other]
  have hrender := render_eq_of_looksLike r other hlooks
  exact ⟨hrender.1, hrender.2, by decide +kernel⟩

end Renderer
end SheetMarkup
