import SheetMarkup.Grid.Address
import SheetMarkup.Proofs.Grid.Cells
import SheetMarkup.Table.Filter

/-!
# Selection — the part of a grid that a filter shows

A filter fills up the rows of a table and takes from them the rows of the window and the columns, in their order,
as far as they are not hidden. What is left is a grid of its own, with rows of one length and nothing hidden, so
a filter that asks for nothing leaves it as it is. The rows are looked up by their indices in the table, and the
window never reaches beyond the last of them.

* `entriesAt`, `Grid.restrict`: a part of a list, and of a grid, in order
* `Table.KeepsRow`, `Table.KeepsColumn`: which rows and columns are kept
* `Table.readWindow?`: the rows looked up one after another, which may fail
* `data_filter_eq_restrict`, `readWindow?_eq_some`: the cells of the filtered table, and how they are found
* `filter_selects`: the filtered table
-/

namespace SheetMarkup

/-! ## Parts of lists and grids -/

def entriesAt {α : Type} (keep : Nat → Prop) [DecidablePred keep] (xs : List α) : List α :=
  (xs.zipIdx.filter fun entry => keep entry.2).map Prod.fst

def Grid.restrict (keepRow keepColumn : Nat → Prop) [DecidablePred keepRow] [DecidablePred keepColumn]
    (grid : Grid) : Grid :=
  (entriesAt keepRow grid).map (entriesAt keepColumn)

theorem zipIdx_map_range' {α : Type} (f : Nat → α) (start n : Nat) :
    ((List.range' start n).map f).zipIdx start = (List.range' start n).map fun i => (f i, i) := by
  induction n generalizing start with
  | zero => rfl
  | succ n ih => simp [List.range'_succ, ih]

theorem entriesAt_map_range {α : Type} (keep : Nat → Prop) [DecidablePred keep] (f : Nat → α)
    (n : Nat) :
    entriesAt keep ((List.range n).map f) = ((List.range n).filter fun i => keep i).map f := by
  rw [entriesAt, List.range_eq_range', zipIdx_map_range', List.filter_map, List.map_map]
  rfl

/-- A window of the indices of a list. -/
theorem filter_range_window {start stop n : Nat} (h : stop ≤ n) :
    ((List.range n).filter fun i => start ≤ i && i < stop) = List.range' start (stop - start) := by
  rcases Nat.lt_or_ge start stop with hlt | hempty
  · -- Nothing is taken from the indices before the window and from those behind it.
    have hsplit : List.range n =
        List.range' 0 start ++ (List.range' start (stop - start) ++ List.range' stop (n - stop)) := by
      have hwindow := List.range'_append_1 (s := start) (m := stop - start) (n := n - stop)
      have hbefore := List.range'_append_1 (s := 0) (m := start) (n := n - start)
      rw [show start + (stop - start) = stop by omega,
        show stop - start + (n - stop) = n - start by omega] at hwindow
      rw [Nat.zero_add, show start + (n - start) = n by omega] at hbefore
      rw [hwindow, hbefore, List.range_eq_range']
    have hbefore : ((List.range' 0 start).filter fun i => start ≤ i && i < stop) = [] := by
      simp [List.filter_eq_nil_iff, List.mem_range'_1]
      omega
    have hwindow : ((List.range' start (stop - start)).filter fun i => start ≤ i && i < stop) =
        List.range' start (stop - start) := by
      simp [List.filter_eq_self, List.mem_range'_1]
      omega
    have hbehind : ((List.range' stop (n - stop)).filter fun i => start ≤ i && i < stop) = [] := by
      simp [List.filter_eq_nil_iff, List.mem_range'_1]
      omega
    rw [hsplit, List.filter_append, List.filter_append, hbefore, hwindow, hbehind]
    simp
  · have hnone : stop - start = 0 := by omega
    simp [hnone, List.filter_eq_nil_iff]
    omega

theorem mapM_eq_some_map {α β : Type} {f : α → Option β} {g : α → β} {xs : List α}
    (h : ∀ x ∈ xs, f x = some (g x)) : xs.mapM f = some (xs.map g) := by
  induction xs with
  | nil => rfl
  | cons x xs ih =>
    rw [List.mapM_cons, h x List.mem_cons_self, ih fun y hy => h y (List.mem_cons_of_mem x hy)]
    rfl

/-! ## What is kept -/

/-- An index, counted from 0, has a flag that hides it or is listed as hidden, and it is not listed as shown. The
lists count from 1. -/
def HidesIndex (flags : List Bool) (hidden shown : List UInt64) (index : Nat) : Prop :=
  (flags[index]? = some false ∨ ∃ i ∈ hidden, i.toNat = index + 1) ∧
    ¬ ∃ i ∈ shown, i.toNat = index + 1

theorem isHidden_iff {flags : List Bool} {hidden shown : List UInt64} {index : Nat} :
    isHidden flags hidden shown index = true ↔ HidesIndex flags hidden shown index := by
  simp [isHidden, isListed, HidesIndex]

instance (flags : List Bool) (hidden shown : List UInt64) (index : Nat) :
    Decidable (HidesIndex flags hidden shown index) :=
  decidable_of_iff _ isHidden_iff

namespace Table

/-- A row is not hidden and lies in the window: not before the offset, which counts from 1 and where 0 means 1 as
well, and not behind as many rows as are asked for. -/
structure KeepsRow (t : Table) (s : RenderSettings) (row : Nat) : Prop where
  start : max s.rowOffset.toNat 1 - 1 ≤ row
  stop : ∀ count ∈ s.rowCount, row < max s.rowOffset.toNat 1 - 1 + count.toNat
  visible : ¬ HidesIndex t.visibility.rows s.hideRows s.showRows row

instance (t : Table) (s : RenderSettings) (row : Nat) : Decidable (t.KeepsRow s row) :=
  decidable_of_iff (max s.rowOffset.toNat 1 - 1 ≤ row ∧
      (s.rowCount.all fun count => row < max s.rowOffset.toNat 1 - 1 + count.toNat) = true ∧
      ¬ HidesIndex t.visibility.rows s.hideRows s.showRows row)
    ⟨fun ⟨hstart, hstop, hvisible⟩ => ⟨hstart, by simpa [Option.all_eq_true] using hstop, hvisible⟩,
      fun h => ⟨h.start, by simpa [Option.all_eq_true] using h.stop, h.visible⟩⟩

def KeepsColumn (t : Table) (s : RenderSettings) (column : Nat) : Prop :=
  ¬ HidesIndex t.visibility.columns s.hideColumns s.showColumns column

instance (t : Table) (s : RenderSettings) (column : Nat) : Decidable (t.KeepsColumn s column) :=
  inferInstanceAs (Decidable (¬ _))

/-- The rows of the window that are not hidden, looked up one after another in the columns that are kept. There
is no result if a row is missing. The end of the window is found among machine words: where the sum of offset and
count is none, it is the largest of them. -/
def readWindow? (t : Table) (s : RenderSettings) : Option Grid :=
  let start := max s.rowOffset.toNat 1 - 1
  let reach := match s.rowCount with
    | some count => min maxIndex (start + count.toNat)
    | none => maxIndex
  let stop := min reach t.data.length
  let columns := (List.range t.data.width).filter fun column => t.KeepsColumn s column
  if columns.isEmpty then some []
  else
    ((List.range' start (stop - start)).filter fun row =>
        ¬ HidesIndex t.visibility.rows s.hideRows s.showRows row).mapM fun row =>
      t.data[row]?.map fun cells => columns.map fun column => cells[column]?.getD ""

variable {t : Table} {s : RenderSettings} {row : Nat}

/-! ## The cells of the filtered table -/

theorem shownColumns_eq_filter (t : Table) (s : RenderSettings) :
    t.shownColumns s = (List.range t.data.width).filter fun column => t.KeepsColumn s column := by
  apply List.filter_congr
  intro column _
  rw [Bool.eq_iff_iff]
  simp [KeepsColumn, ← isHidden_iff]

theorem window_le (t : Table) (s : RenderSettings) : (t.window s).2 ≤ t.data.length := by
  unfold window
  cases s.rowCount with
  | none => exact Nat.le_refl _
  | some count => exact Nat.min_le_right _ _

/-- A row of the table is kept if it lies in the window and is not hidden. -/
theorem keepsRow_iff (hrow : row < t.data.length) :
    t.KeepsRow s row ↔ ((t.window s).1 ≤ row ∧ row < (t.window s).2) ∧
      isHidden t.visibility.rows s.hideRows s.showRows row = false := by
  rw [← Bool.not_eq_true, isHidden_iff]
  unfold window
  constructor
  · rintro ⟨hstart, hstop, hvisible⟩
    refine ⟨⟨hstart, ?_⟩, hvisible⟩
    cases hcount : s.rowCount with
    | none => exact hrow
    | some count => exact Nat.lt_min.2 ⟨hstop count hcount, hrow⟩
  · rintro ⟨⟨hstart, hstop⟩, hvisible⟩
    refine ⟨hstart, fun count hcount => ?_, hvisible⟩
    simp only [show s.rowCount = some count from hcount] at hstop
    exact (Nat.lt_min.1 hstop).1

theorem shownRows_eq (t : Table) (s : RenderSettings) :
    t.shownRows s = (List.range t.data.length).filter fun row =>
      ((t.window s).1 ≤ row && row < (t.window s).2) &&
        !isHidden t.visibility.rows s.hideRows s.showRows row := rfl

theorem shownRows_eq_filter (t : Table) (s : RenderSettings) :
    t.shownRows s = (List.range t.data.length).filter fun row => t.KeepsRow s row := by
  rw [shownRows_eq]
  apply List.filter_congr
  intro row hrow
  rw [Bool.eq_iff_iff, decide_eq_true_iff, keepsRow_iff (List.mem_range.1 hrow)]
  simp

/-- The rows that are shown are those of the window that are not hidden. -/
theorem shownRows_eq_window (t : Table) (s : RenderSettings) :
    t.shownRows s = (List.range' (t.window s).1 ((t.window s).2 - (t.window s).1)).filter fun row =>
      ¬ HidesIndex t.visibility.rows s.hideRows s.showRows row := by
  rw [shownRows_eq, ← filter_range_window (t.window_le s), List.filter_filter]
  apply List.filter_congr
  intro row _
  rw [Bool.eq_iff_iff]
  simp [← isHidden_iff, and_comm]

end Table

theorem Grid.restrict_padded (keepRow keepColumn : Nat → Prop) [DecidablePred keepRow]
    [DecidablePred keepColumn] (grid : Grid) :
    grid.padded.restrict keepRow keepColumn =
      ((List.range grid.length).filter fun row => keepRow row).map fun row =>
        ((List.range grid.width).filter fun column => keepColumn column).map (grid.textAt row) := by
  rw [restrict, padded_eq_map_range, entriesAt_map_range, List.map_map]
  exact List.map_congr_left fun row _ => entriesAt_map_range _ _ _

namespace Table

variable {t : Table} {s : RenderSettings} {row : Nat}

theorem data_filter_eq_nil (h : t.shownRows s = [] ∨ t.shownColumns s = []) :
    (t.filter s).data = [] := by
  rcases h with hrows | hcolumns
  · simp [filter, hrows, cellsAt]
  · simp [filter, hcolumns]

theorem data_filter_of_ne_nil (h : t.shownColumns s ≠ []) :
    (t.filter s).data = t.cellsAt (t.shownRows s) (t.shownColumns s) := by
  simp [filter, h]

/-- The filter takes the rows and the columns that are kept from the rows filled up. -/
theorem data_filter_eq_restrict (h : t.shownColumns s ≠ []) :
    (t.filter s).data = t.data.padded.restrict (t.KeepsRow s) (t.KeepsColumn s) := by
  rw [data_filter_of_ne_nil h, Grid.restrict_padded, ← shownRows_eq_filter, ← shownColumns_eq_filter]
  rfl

/-- Every row that is looked up is there, and saturating has no influence on the window. -/
theorem readWindow?_eq_some (hlength : t.data.length ≤ maxIndex) :
    t.readWindow? s = some (t.filter s).data := by
  have hstop : min (match s.rowCount with
        | some count => min maxIndex (max s.rowOffset.toNat 1 - 1 + count.toNat)
        | none => maxIndex) t.data.length = (t.window s).2 := by
    unfold window
    cases s.rowCount with
    | none => exact Nat.min_eq_right hlength
    | some count =>
      simp only
      omega
  have hstart : max s.rowOffset.toNat 1 - 1 = (t.window s).1 := rfl
  unfold readWindow?
  -- The window ends with the table at the latest, so a sum that is too large is cut off in any case.
  simp only [hstop, ← shownColumns_eq_filter]
  rw [hstart, ← shownRows_eq_window]
  by_cases hcolumns : t.shownColumns s = []
  · simp [hcolumns, filter]
  · have hempty : (t.shownColumns s).isEmpty = false := by simpa using hcolumns
    rw [hempty, data_filter_of_ne_nil hcolumns]
    apply mapM_eq_some_map
    intro row hrow
    have hlt : row < t.data.length := by
      rw [shownRows_eq_filter] at hrow
      exact List.mem_range.1 (List.mem_filter.1 hrow).1
    simp [Grid.cell?, hlt]

/-! ## The filtered table -/

theorem length_of_mem_filter {cells : List String} (h : cells ∈ (t.filter s).data) :
    cells.length = (t.shownColumns s).length := by
  by_cases hcolumns : t.shownColumns s = []
  · rw [data_filter_eq_nil (Or.inr hcolumns)] at h
    cases h
  · rw [data_filter_of_ne_nil hcolumns] at h
    rcases List.mem_map.1 h with ⟨row, _, rfl⟩
    simp

theorem length_eq_width_of_mem_filter {cells : List String} (h : cells ∈ (t.filter s).data) :
    cells.length = (t.filter s).data.width := by
  rw [length_of_mem_filter h]
  exact (Grid.width_eq_of_forall_length (List.ne_nil_of_mem h)
    fun other hother => length_of_mem_filter hother).symm

/-- A row that is left has a cell for each column that is left, of which there is one at least. -/
theorem data_filter_eq_nil_of_width (h : (t.filter s).data.width = 0) : (t.filter s).data = [] := by
  by_cases hnone : (t.filter s).data = []
  · exact hnone
  · -- A row that is left is as wide as the grid, so none of the columns would be left.
    rcases List.exists_mem_of_ne_nil _ hnone with ⟨cells, hcells⟩
    have hlength : (t.shownColumns s).length = 0 := by
      rw [← length_of_mem_filter hcells, length_eq_width_of_mem_filter hcells, h]
    exact data_filter_eq_nil (Or.inr (List.length_eq_zero_iff.1 hlength))

theorem visibility_filter (t : Table) (s : RenderSettings) :
    (t.filter s).visibility = .allVisible (t.filter s).data.length (t.filter s).data.width := by
  have hwidth : (t.filter s).data.head?.elim 0 List.length = (t.filter s).data.width := by
    cases hdata : (t.filter s).data with
    | nil => rfl
    | cons first rest =>
      have hfirst := length_eq_width_of_mem_filter (t := t) (s := s) (hdata ▸ List.mem_cons_self)
      rwa [hdata] at hfirst
  rw [← hwidth]
  rfl

/-- A filter that asks for nothing leaves a table as it is, if its rows have one length that is not 0 and nothing
in it is hidden. -/
theorem filter_default (hrows : ∀ cells ∈ t.data, cells.length = t.data.width)
    (hwidth : t.data.width = 0 → t.data = [])
    (hvisible : t.visibility = .allVisible t.data.length t.data.width) :
    t.filter RenderSettings.default = t := by
  have hnone : ∀ n index, ¬ HidesIndex (List.replicate n true) [] [] index := by
    intro n index
    simp [HidesIndex, List.getElem?_replicate]
  have hcolumns : t.shownColumns RenderSettings.default = List.range t.data.width := by
    rw [shownColumns_eq_filter, List.filter_eq_self]
    intro column _
    rw [decide_eq_true_iff, KeepsColumn, hvisible]
    exact hnone _ _
  have hkept : t.shownRows RenderSettings.default = List.range t.data.length := by
    rw [shownRows_eq_filter, List.filter_eq_self]
    intro row _
    rw [decide_eq_true_iff]
    refine ⟨Nat.zero_le row, (fun count hcount => by cases hcount), ?_⟩
    rw [hvisible]
    exact hnone _ _
  have hdata : (t.filter RenderSettings.default).data = t.data := by
    by_cases hzero : t.data.width = 0
    · rw [data_filter_eq_nil (Or.inr (by rw [hcolumns, hzero]; rfl)), hwidth hzero]
    · have hcells := Grid.padded_eq_map_range t.data
      rw [Grid.padded_eq_self hrows] at hcells
      simp only [filter, hcolumns, hkept, List.isEmpty_iff, List.range_eq_nil, hzero, if_false]
      exact hcells.symm
  have hflags := t.visibility_filter RenderSettings.default
  rw [hdata, ← hvisible] at hflags
  cases t with
  | mk id name description data visibility =>
    simp only [filter, mk.injEq, true_and] at hdata hflags ⊢
    exact ⟨hdata, hflags⟩

/-- Filtering selects exactly the visible part of a table. Its cells are those of the rows filled up, in the rows
of the window and the columns that are not hidden, and there are none if no row or no column is left. Looking the
rows up one after another never fails. The headings are kept and nothing is hidden any more, so a second filter
that asks for nothing changes nothing. -/
theorem filter_selects (t : Table) (s : RenderSettings) :
    let shown := t.filter s
    ((∃ column < t.data.width, t.KeepsColumn s column) →
        shown.data = t.data.padded.restrict (t.KeepsRow s) (t.KeepsColumn s)) ∧
      ((∀ row < t.data.length, ¬ t.KeepsRow s row) ∨
          (∀ column < t.data.width, ¬ t.KeepsColumn s column) → shown.data = []) ∧
      (t.data.length ≤ maxIndex → t.readWindow? s = some shown.data) ∧
      (shown.id = t.id ∧ shown.name = t.name ∧ shown.description = t.description) ∧
      shown.visibility = .allVisible shown.data.length shown.data.width ∧
      shown.filter RenderSettings.default = shown := by
  intro shown
  refine ⟨?_, ?_, readWindow?_eq_some, ⟨rfl, rfl, rfl⟩, t.visibility_filter s, ?_⟩
  · rintro ⟨column, hlt, hkept⟩
    apply data_filter_eq_restrict
    rw [shownColumns_eq_filter]
    exact List.ne_nil_of_mem (List.mem_filter.2 ⟨List.mem_range.2 hlt, decide_eq_true hkept⟩)
  · intro hnothing
    apply data_filter_eq_nil
    rw [shownRows_eq_filter, shownColumns_eq_filter, List.filter_eq_nil_iff, List.filter_eq_nil_iff]
    simpa only [List.mem_range, decide_eq_true_iff] using hnothing
  · exact filter_default (fun cells hcells => length_eq_width_of_mem_filter hcells)
      data_filter_eq_nil_of_width (t.visibility_filter s)

/-- A table with short rows, a window that reaches beyond every index, and lists with a zero, a repetition and an
index that the table does not have. -/
theorem filter_selects_longWindow :
    let t : Table :=
      { id := "1", data := [["a"], ["b", "c", "d"], ["e", "f"]], visibility := ⟨[], [true, false]⟩ }
    let s : RenderSettings :=
      { RenderSettings.default with
        rowOffset := 2, rowCount := some 18446744073709551615
        hideColumns := [0, 1, 1, 9], showColumns := [2] }
    (∃ column < t.data.width, t.KeepsColumn s column) ∧ t.data.length ≤ maxIndex ∧
      (t.filter s).data = [["c", "d"], ["f", ""]] ∧ t.readWindow? s = some [["c", "d"], ["f", ""]] := by
  intro t s
  have hkept : ∃ column < t.data.width, t.KeepsColumn s column := ⟨1, by decide, by decide⟩
  have hlength : t.data.length ≤ maxIndex := by decide
  rcases filter_selects t s with ⟨hcells, _, hread, _⟩
  have hdata : (t.filter s).data = [["c", "d"], ["f", ""]] := by
    rw [hcells hkept]
    decide
  exact ⟨hkept, hlength, hdata, hdata ▸ hread hlength⟩

end Table
end SheetMarkup
