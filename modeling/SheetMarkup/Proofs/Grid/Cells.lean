import SheetMarkup.Grid.Basic

/-!
# Cells — one cell of a grid and the lengths of its rows

Writing a cell changes that cell and no other, and never the lengths of the rows. Two grids whose
rows have the same lengths have their cells at the same positions.

* `Grid.shape`: the lengths of the rows
* `cell?_set`: the cells after one of them is written
* `exists_cell?_of_shape_eq`, `mem_positions_iff`: where a grid has cells
* `Spans`: how many rows a grid has, and how long they get
* `textAt`, `padded_eq_map_range`: the cells of all positions, in short rows as well
-/

namespace SheetMarkup
namespace Grid

def shape (grid : Grid) : List Nat :=
  grid.map List.length

/-! ## Writing a cell -/

@[simp] theorem shape_set (grid : Grid) (row column : Nat) (text : String) :
    (grid.set row column text).shape = grid.shape := by
  apply List.ext_getElem?
  intro i
  simp only [shape, set, List.getElem?_map, List.getElem?_modify]
  cases grid[i]? with
  | none => simp
  | some cells =>
    by_cases hrow : row = i
    · simp [hrow]
    · simp [hrow]

theorem cell?_set_self {grid : Grid} {row column : Nat} {old : String} (text : String)
    (h : grid.cell? row column = some old) :
    (grid.set row column text).cell? row column = some text := by
  rcases Option.bind_eq_some_iff.1 h with ⟨cells, hcells, hold⟩
  have hlt : column < cells.length := (List.getElem?_eq_some_iff.1 hold).1
  simp [cell?, set, hcells, hlt]

theorem cell?_set_of_ne {grid : Grid} {row column row' column' : Nat} (text : String)
    (h : (row, column) ≠ (row', column')) :
    (grid.set row column text).cell? row' column' = grid.cell? row' column' := by
  unfold cell? set
  rw [List.getElem?_modify]
  by_cases hrow : row = row'
  · have hcolumn : column ≠ column' := fun hc => h (by rw [hrow, hc])
    cases grid[row']? with
    | none => rfl
    | some cells => simp [hrow, List.getElem?_set_ne hcolumn]
  · simp [hrow]

/-- Writing what a cell already holds changes nothing. -/
theorem set_eq_self {grid : Grid} {row column : Nat} {text : String}
    (h : grid.cell? row column = some text) : grid.set row column text = grid := by
  rcases Option.bind_eq_some_iff.1 h with ⟨cells, hcells, htext⟩
  -- Only the row of the cell could change, and in it only the cell.
  have hset : cells.set column text = cells := by
    rcases List.getElem?_eq_some_iff.1 htext with ⟨hlt, rfl⟩
    exact List.set_getElem_self hlt
  apply List.ext_getElem?
  intro i
  by_cases hrow : row = i
  · subst hrow
    simp [set, hcells, hset]
  · simp [set, hrow]

/-! ## Positions -/

theorem exists_cell?_iff_shape {grid : Grid} {row column : Nat} :
    (∃ text, grid.cell? row column = some text) ↔
      ∃ length, grid.shape[row]? = some length ∧ column < length := by
  simp only [cell?, shape, List.getElem?_map]
  cases grid[row]? with
  | none => simp
  | some cells =>
    simp only [Option.bind_some, Option.map_some, Option.some.injEq, exists_eq_left']
    constructor
    · rintro ⟨text, htext⟩
      exact (List.getElem?_eq_some_iff.1 htext).1
    · intro hlt
      exact ⟨cells[column], List.getElem?_eq_getElem hlt⟩

/-- Grids with rows of the same lengths have cells at the same positions. -/
theorem exists_cell?_of_shape_eq {grid other : Grid} (hshape : grid.shape = other.shape)
    {row column : Nat} {text : String} (h : grid.cell? row column = some text) :
    ∃ found, other.cell? row column = some found := by
  rw [exists_cell?_iff_shape, ← hshape, ← exists_cell?_iff_shape]
  exact ⟨text, h⟩

/-- A cell after a write is the written text or what it was. -/
theorem cell?_set {grid : Grid} {row column row' column' : Nat} {text found : String}
    (h : (grid.set row column text).cell? row' column' = some found) :
    ((row, column) = (row', column') ∧ found = text) ∨ grid.cell? row' column' = some found := by
  by_cases heq : (row, column) = (row', column')
  · left
    refine ⟨heq, ?_⟩
    cases heq
    -- The cell was there before, or it would not have been written.
    rcases exists_cell?_of_shape_eq (shape_set grid row column text) h with ⟨old, hold⟩
    rw [cell?_set_self text hold] at h
    exact (Option.some.inj h).symm
  · exact Or.inr (cell?_set_of_ne text heq ▸ h)

theorem length_eq_of_shape_eq {grid other : Grid} (h : grid.shape = other.shape) :
    grid.length = other.length := by
  simpa [shape] using congrArg List.length h

theorem length_le_width {grid : Grid} {cells : List String} (h : cells ∈ grid) :
    cells.length ≤ grid.width := by
  induction grid with
  | nil => cases h
  | cons first rest ih =>
    have hwidth : width (first :: rest) = max first.length (width rest) := rfl
    rcases List.mem_cons.1 h with rfl | hrest
    · omega
    · have hle := ih hrest
      omega

/-- There is no cell below the last row, and none right of the longest one. -/
theorem lt_of_cell? {grid : Grid} {row column : Nat} {text : String}
    (h : grid.cell? row column = some text) : row < grid.length ∧ column < grid.width := by
  rcases Option.bind_eq_some_iff.1 h with ⟨cells, hcells, htext⟩
  have hcolumn : column < cells.length := (List.getElem?_eq_some_iff.1 htext).1
  exact ⟨(List.getElem?_eq_some_iff.1 hcells).1,
    Nat.lt_of_lt_of_le hcolumn (length_le_width (List.mem_of_getElem? hcells))⟩

theorem isVoid_eq_false_of_cell? {grid : Grid} {row column : Nat} {text : String}
    (h : grid.cell? row column = some text) : grid.isVoid = false := by
  rcases lt_of_cell? h with ⟨hrow, hcolumn⟩
  simp only [isVoid, Bool.or_eq_false_iff, beq_eq_false_iff_ne]
  omega

theorem width_eq_foldr_shape (grid : Grid) : grid.width = grid.shape.foldr max 0 := by
  simp [width, shape, List.foldr_map]

theorem width_eq_of_shape_eq {grid other : Grid} (h : grid.shape = other.shape) :
    grid.width = other.width := by
  rw [width_eq_foldr_shape, width_eq_foldr_shape, h]

structure Spans (rows columns : Nat) (grid : Grid) : Prop where
  length : grid.length = rows
  width : grid.width = columns

theorem Spans.of_shape_eq {rows columns : Nat} {grid next : Grid} (h : grid.Spans rows columns)
    (hshape : next.shape = grid.shape) : next.Spans rows columns where
  length := (length_eq_of_shape_eq hshape).trans h.length
  width := (width_eq_of_shape_eq hshape).trans h.width

theorem Spans.cell?_eq_none {rows columns row column : Nat} {grid : Grid} (h : grid.Spans rows columns)
    (houtside : rows ≤ row ∨ columns ≤ column) : grid.cell? row column = none := by
  rw [Option.eq_none_iff_forall_ne_some]
  intro text htext
  rcases lt_of_cell? htext with ⟨hrow, hcolumn⟩
  have hrows := h.length
  have hcolumns := h.width
  omega

/-- Rows of one length are as wide as each of them. -/
theorem width_eq_of_forall_length {grid : Grid} {length : Nat} (hne : grid ≠ [])
    (h : ∀ cells ∈ grid, cells.length = length) : grid.width = length := by
  induction grid with
  | nil => exact absurd rfl hne
  | cons first rest ih =>
    have hfirst : first.length = length := h first List.mem_cons_self
    have hwidth : width (first :: rest) = max first.length (width rest) := rfl
    cases rest with
    | nil => simp [width, hfirst]
    | cons second rest =>
      have hrest := ih (by simp) fun cells hcells => h cells (List.mem_cons_of_mem first hcells)
      rw [hwidth, hrest, hfirst, Nat.max_self]

theorem mem_positions_iff {grid : Grid} {row column : Nat} :
    (row, column) ∈ grid.positions ↔ ∃ text, grid.cell? row column = some text := by
  simp only [positions, List.mem_flatMap, Prod.exists, List.mem_map, List.mem_range,
    Prod.mk.injEq, List.mk_mem_zipIdx_iff_getElem?, cell?, Option.bind_eq_some_iff]
  constructor
  · rintro ⟨cells, i, hcells, j, hj, rfl, rfl⟩
    exact ⟨cells[j], cells, hcells, List.getElem?_eq_getElem hj⟩
  · rintro ⟨text, cells, hcells, htext⟩
    exact ⟨cells, row, hcells, column, (List.getElem?_eq_some_iff.1 htext).1, rfl, rfl⟩

/-- A grid is known by its shape and its cells. -/
theorem ext_cell? {grid other : Grid} (hshape : grid.shape = other.shape)
    (hcells : ∀ row column text, grid.cell? row column = some text →
      other.cell? row column = some text) : grid = other := by
  have hlength : grid.length = other.length := length_eq_of_shape_eq hshape
  apply List.ext_getElem hlength
  intro row hrow hrow'
  -- Rows in the same place have the same length, so they can be compared cell by cell.
  have hrows : grid[row].length = other[row].length := by
    have h := congrArg (fun lengths => lengths[row]?) hshape
    simpa [shape, hrow, hrow'] using h
  apply List.ext_getElem hrows
  intro column hcolumn hcolumn'
  have h := hcells row column grid[row][column] (by simp [cell?, hrow, hcolumn])
  simp only [cell?, List.getElem?_eq_getElem hrow', Option.bind_some,
    List.getElem?_eq_getElem hcolumn', Option.some.injEq] at h
  exact h.symm

/-! ## Rows filled up -/

/-- The text at a position, short rows going on with empty cells. -/
def textAt (grid : Grid) (row column : Nat) : String :=
  (grid.cell? row column).getD ""

theorem padded_eq_map_range (grid : Grid) :
    grid.padded = (List.range grid.length).map fun row =>
      (List.range grid.width).map (grid.textAt row) := by
  apply List.ext_getElem
  · simp [padded]
  · intro row hrow hrow'
    have hlt : row < grid.length := by simpa [padded] using hrow
    have hlength : grid[row].length ≤ grid.width := length_le_width (List.getElem_mem hlt)
    simp only [padded, List.getElem_map, List.getElem_range]
    apply List.ext_getElem
    · simp only [padRow, List.length_append, List.length_replicate, List.length_map,
        List.length_range]
      omega
    · intro column hcolumn hcolumn'
      -- A cell beyond the end of its row is one of those that fill the row up.
      by_cases hinside : column < grid[row].length
      · simp [padRow, textAt, cell?, hlt, hinside]
      · simp [padRow, textAt, cell?, List.getElem_append, hlt, hinside]

/-- A grid whose rows are all as long as the longest one has nothing to fill up. -/
theorem padded_eq_self {grid : Grid} (h : ∀ cells ∈ grid, cells.length = grid.width) :
    grid.padded = grid := by
  have hrow : ∀ cells ∈ grid, padRow grid.width cells = cells := by
    intro cells hcells
    simp [padRow, h cells hcells]
  simpa [padded] using List.map_congr_left hrow

end Grid
end SheetMarkup
