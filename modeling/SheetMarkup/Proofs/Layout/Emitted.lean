import SheetMarkup.Proofs.Layout.Contents

/-!
# Emitted cells — the cells of a layout and where they stand

A row of a layout lists its cells from left to right and does not say in which columns they stand. They stand in
those that hold no trigger whose merge is allowed, the first cell in the first of these columns, and so on. Read
in this way a layout is a list of rectangles in the grid, with the spans that its cells are written with.

* `Frame.IsMerged`, `Frame.IsWritten`: triggers whose merge is allowed, and all other cells
* `LayoutEngine.emitted`: the cells of a layout with their positions
* `emitted_eq_map_written`: each of them is what the walk has placed there
* `placementAt?_of_mem_emitted`, `exists_mem_emitted_iff`: one cell, and the positions of all cells
* `emitted_inOrder`: they come in reading order
* `cells_in_writtenColumns`: the hooks are asked about a cell at the same position
-/

namespace SheetMarkup

/-- A cell comes before another when a table is read. -/
def Placement.Before (b c : Placement) : Prop :=
  b.row < c.row ∨ (b.row = c.row ∧ b.column < c.column)

namespace Frame

/-! ## Cells that are written -/

section Cells

variable (f : Frame) (triggers : SpanTriggers) (grid : Grid)

/-- A trigger stands in a cell, and its merge is allowed there. -/
def IsMerged (kind : SpanKind) (row column : Nat) : Prop :=
  triggers.classify (grid.textAt row column) = some kind ∧ f.allows row column kind = true

instance (kind : SpanKind) (row column : Nat) : Decidable (f.IsMerged triggers grid kind row column) :=
  inferInstanceAs (Decidable (_ ∧ _))

def IsWritten (row column : Nat) : Prop :=
  ∀ kind, ¬ f.IsMerged triggers grid kind row column

variable {f triggers grid} {row column : Nat} {kind : SpanKind} {b : Placement}

theorem allows_of_decisionAt (h : f.decisionAt triggers grid row column = .merge kind) :
    triggers.classify (grid.textAt row column) = some kind ∧ f.allows row column kind = true := by
  unfold decisionAt decide at h
  split at h
  · cases h
  · rename_i asked hasked
    split at h
    · rename_i hallows
      cases h
      exact ⟨hasked, hallows⟩
    · cases h

theorem decisionAt_eq_merge_iff :
    f.decisionAt triggers grid row column = .merge kind ↔ f.IsMerged triggers grid kind row column := by
  constructor
  · exact allows_of_decisionAt
  · rintro ⟨hasked, hallows⟩
    simp [decisionAt, decide, hasked, hallows]

theorem isSome_placementAt?_iff :
    (f.placementAt? triggers grid row column).isSome = true ↔ f.IsWritten triggers grid row column := by
  simp only [IsWritten, ← decisionAt_eq_merge_iff]
  unfold placementAt?
  cases f.decisionAt triggers grid row column <;> simp

instance (row column : Nat) : Decidable (f.IsWritten triggers grid row column) :=
  decidable_of_iff _ isSome_placementAt?_iff

theorem row_column_of_placementAt? (h : f.placementAt? triggers grid row column = some b) :
    b.row = row ∧ b.column = column := by
  rcases placementAt?_eq_some h with ⟨⟨text, rfl⟩, _⟩
  exact ⟨rfl, rfl⟩

theorem mem_written_iff :
    b ∈ (f.walk triggers grid).written.flatten ↔
      (b.row < grid.length ∧ b.column < grid.width) ∧
        f.placementAt? triggers grid b.row b.column = some b := by
  rw [walk_written]
  simp only [List.mem_flatten, List.mem_map, List.mem_range]
  constructor
  · rintro ⟨_, ⟨row, hrow, rfl⟩, hb⟩
    rcases List.mem_filterMap.1 hb with ⟨column, hcolumn, hplaced⟩
    rcases row_column_of_placementAt? hplaced with ⟨rfl, rfl⟩
    exact ⟨⟨hrow, List.mem_range.1 hcolumn⟩, hplaced⟩
  · rintro ⟨⟨hrow, hcolumn⟩, hplaced⟩
    exact ⟨_, ⟨b.row, hrow, rfl⟩, List.mem_filterMap.2 ⟨b.column, List.mem_range.2 hcolumn, hplaced⟩⟩

theorem written_inOrder : (f.walk triggers grid).written.flatten.Pairwise Placement.Before := by
  rw [walk_written, List.pairwise_flatten]
  constructor
  · intro placements hplacements
    rcases List.mem_map.1 hplacements with ⟨row, _, rfl⟩
    rw [List.pairwise_filterMap]
    refine List.pairwise_lt_range.imp ?_
    intro column later hlt b hb c hc
    rcases row_column_of_placementAt? hb with ⟨hrow, hcolumn⟩
    rcases row_column_of_placementAt? hc with ⟨hrow', hcolumn'⟩
    exact Or.inr ⟨hrow.trans hrow'.symm, by omega⟩
  · rw [List.pairwise_map]
    refine List.pairwise_lt_range.imp ?_
    intro row later hlt b hb c hc
    rcases List.mem_filterMap.1 hb with ⟨_, _, hplaced⟩
    rcases List.mem_filterMap.1 hc with ⟨_, _, hplaced'⟩
    have hrow := (row_column_of_placementAt? hplaced).1
    have hrow' := (row_column_of_placementAt? hplaced').1
    exact Or.inl (by omega)

end Cells

def writtenColumns (f : Frame) (triggers : SpanTriggers) (grid : Grid) (row : Nat) : List Nat :=
  (List.range grid.width).filter fun column => f.IsWritten triggers grid row column

/-- The cells that the walk places in a row stand in the columns that are written. -/
theorem map_column_placements (f : Frame) (triggers : SpanTriggers) (grid : Grid) (row : Nat) :
    ((List.range grid.width).filterMap (f.placementAt? triggers grid row)).map Placement.column =
      f.writtenColumns triggers grid row := by
  rw [List.map_filterMap, writtenColumns, ← List.filterMap_eq_filter]
  refine List.filterMap_congr fun column _ => ?_
  cases hplaced : f.placementAt? triggers grid row column with
  | none =>
    have hmerged : ¬ f.IsWritten triggers grid row column := by
      rw [← isSome_placementAt?_iff, hplaced]
      simp
    simp [Option.guard, hmerged]
  | some b =>
    have hwritten : f.IsWritten triggers grid row column := by
      rw [← isSome_placementAt?_iff, hplaced]
      rfl
    simp [Option.guard, hwritten, (row_column_of_placementAt? hplaced).2]

end Frame

/-! ## Cells of a layout -/

/-- The rectangle that a cell of a layout covers from a position on. -/
def LayoutCell.standingAt (cell : LayoutCell) (row column : Nat) : Placement where
  row
  column
  text := cell.content
  colspan := cell.colspan
  rowspan := cell.rowspan

namespace LayoutEngine

/-- The cells of the layout of a grid at their positions, counted from 0. A cell for which there is no column
stands outside the grid. -/
def emitted (e : LayoutEngine) (grid : Grid) : List Placement :=
  (e.layout grid).1.rows.flatMap fun row =>
    let columns := (e.frame grid).writtenColumns e.triggers grid (row.index - 1)
    row.cells.mapIdx fun i cell => cell.standingAt (row.index - 1) (columns.getD i grid.width)

variable {e : LayoutEngine} {grid : Grid} {b : Placement}

/-- The cells of a row are written with the spans with which they were placed. -/
theorem mapIdx_standingAt {placements : List Placement} {row : Nat}
    (hrow : ∀ b ∈ placements, b.row = row) (e : LayoutEngine) (part : Section) (width : Nat) :
    ((placements.map (e.cell part)).mapIdx fun i cell =>
        cell.standingAt row ((placements.map Placement.column).getD i width)) =
      placements.map fun b => { b with text := (e.cell part b).content } := by
  apply List.ext_getElem
  · simp
  · intro i hi hi'
    have hlt : i < placements.length := by simpa using hi'
    have hsame := hrow placements[i] (List.getElem_mem hlt)
    simp [LayoutCell.standingAt, LayoutEngine.cell, hlt, hsame]

/-- The cells of a layout are those that the walk has placed. -/
theorem emitted_eq_map_written (e : LayoutEngine) (grid : Grid) :
    e.emitted grid = ((e.frame grid).walk e.triggers grid).written.flatten.map fun b =>
      { b with text := (e.cell ((e.frame grid).part b.row) b).content } := by
  rw [emitted, rows_layout_eq_map_range, Frame.walk_written, List.flatMap_map, List.map_flatten,
    List.map_map, ← List.flatMap_def]
  refine List.flatMap_congr fun row _ => ?_
  have hrow : ∀ b ∈ (List.range grid.width).filterMap ((e.frame grid).placementAt? e.triggers grid row),
      b.row = row := by
    intro b hb
    rcases List.mem_filterMap.1 hb with ⟨column, _, hplaced⟩
    exact (Frame.row_column_of_placementAt? hplaced).1
  have hcells := mapIdx_standingAt hrow e ((e.frame grid).part row) grid.width
  rw [Frame.map_column_placements] at hcells
  refine hcells.trans (List.map_congr_left fun b hb => ?_)
  rw [hrow b hb]

/-- A cell of a layout is what is written at its position, but for its text. -/
theorem placementAt?_of_mem_emitted (h : b ∈ e.emitted grid) :
    (b.row < grid.length ∧ b.column < grid.width) ∧
      ∃ text, (e.frame grid).placementAt? e.triggers grid b.row b.column = some { b with text } := by
  rw [emitted_eq_map_written, List.mem_map] at h
  rcases h with ⟨placed, hplaced, rfl⟩
  rcases Frame.mem_written_iff.1 hplaced with ⟨hinside, hplaced⟩
  exact ⟨hinside, placed.text, hplaced⟩

theorem emitted_inOrder (e : LayoutEngine) (grid : Grid) :
    (e.emitted grid).Pairwise Placement.Before := by
  rw [emitted_eq_map_written, List.pairwise_map]
  exact Frame.written_inOrder

/-- Each cell of each row is read off with its spans. -/
theorem exists_standingAt_mem_emitted {row : LayoutRow} {cell : LayoutCell} {index : Nat}
    (hrow : (e.layout grid).1.rows[index]? = some row) (hcell : cell ∈ row.cells) :
    row.index = index + 1 ∧ ∃ column, cell.standingAt index column ∈ e.emitted grid := by
  have hindex : row.index = index + 1 := by
    rw [rows_layout_eq_map_range, List.getElem?_map, Option.map_eq_some_iff] at hrow
    rcases hrow with ⟨position, hposition, rfl⟩
    rcases List.getElem?_eq_some_iff.1 hposition with ⟨hlt, rfl⟩
    simp [LayoutEngine.row]
  rcases List.mem_iff_getElem.1 hcell with ⟨i, hi, rfl⟩
  refine ⟨hindex, ((e.frame grid).writtenColumns e.triggers grid index).getD i grid.width, ?_⟩
  refine List.mem_flatMap.2 ⟨row, List.mem_of_getElem? hrow, List.mem_mapIdx.2 ⟨i, hi, ?_⟩⟩
  rw [hindex]
  rfl

/-- A row has one cell for each column that is written, and the hooks are asked about each cell with the
position at which it is read off. -/
theorem cells_in_writtenColumns {row : LayoutRow} (h : row ∈ (e.layout grid).1.rows) :
    let columns := (e.frame grid).writtenColumns e.triggers grid (row.index - 1)
    row.cells.length = columns.length ∧
      ∀ (i : Nat) (cell : LayoutCell) (column : Nat), row.cells[i]? = some cell →
        columns[i]? = some column →
        ∃ context : CellContext, context.row = row.index ∧ context.column = column + 1 ∧
          context.colspan = cell.colspan ∧ context.rowspan = cell.rowspan ∧
          cell.cssClass = e.hooks.cellClass context ("column-" ++ toString (column + 1)) := by
  intro columns
  rw [rows_layout_eq_map_range] at h
  rcases List.mem_map.1 h with ⟨position, _, rfl⟩
  -- The columns of the placements in the row are the written ones, one for each placement.
  have hcolumns : ((List.range grid.width).filterMap
      ((e.frame grid).placementAt? e.triggers grid position)).map Placement.column = columns :=
    Frame.map_column_placements _ _ _ _
  refine ⟨by rw [← hcolumns]; simp [LayoutEngine.row], ?_⟩
  intro i cell column hcell hcolumn
  rw [← hcolumns, List.getElem?_map, Option.map_eq_some_iff] at hcolumn
  rcases hcolumn with ⟨b, hb, rfl⟩
  rcases List.mem_filterMap.1 (List.mem_of_getElem? hb) with ⟨_, _, hplaced⟩
  have hrow := (Frame.row_column_of_placementAt? hplaced).1
  have hsame : e.cell ((e.frame grid).part position) b = cell := by
    simpa [LayoutEngine.row, hb] using hcell
  subst hsame
  exact ⟨_, congrArg (· + 1) hrow, rfl, rfl, rfl, rfl⟩

/-- There is a cell at each position that is written. -/
theorem exists_mem_emitted_iff (e : LayoutEngine) (grid : Grid) (row column : Nat) :
    (∃ b ∈ e.emitted grid, b.row = row ∧ b.column = column) ↔
      (row < grid.length ∧ column < grid.width) ∧
        (e.frame grid).IsWritten e.triggers grid row column := by
  rw [← Frame.isSome_placementAt?_iff, Option.isSome_iff_exists]
  constructor
  · rintro ⟨b, hb, rfl, rfl⟩
    rcases placementAt?_of_mem_emitted hb with ⟨hinside, text, hplaced⟩
    exact ⟨hinside, _, hplaced⟩
  · rintro ⟨hinside, b, hplaced⟩
    rcases Frame.row_column_of_placementAt? hplaced with ⟨rfl, rfl⟩
    rw [emitted_eq_map_written]
    exact ⟨_, List.mem_map_of_mem (Frame.mem_written_iff.2 ⟨hinside, hplaced⟩), rfl, rfl⟩

end LayoutEngine
end SheetMarkup
