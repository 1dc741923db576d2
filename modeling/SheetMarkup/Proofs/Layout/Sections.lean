import SheetMarkup.Proofs.Layout.Emitted

/-!
# Sections — no cell reaches out of its section

Where a cell covers rows below it, each of them is merged upwards or in both directions, and where it
covers columns beside it, each of them is merged to the left or in both directions. So a cell can only
cover what the frame of the grid allows merges from, whichever texts the triggers are: no row below a
header row, not the footer row, and nothing beside a column of headers.

* `header_of_layout`, `body_of_layout`, `footer_of_layout`: where the rows of the sections are
* `placementAt?_within`: the spans of one cell
* `layout_spans_within`: the spans of all cells of a layout
-/

namespace SheetMarkup

namespace Frame

variable {f : Frame} {triggers : SpanTriggers} {grid : Grid} {row column : Nat} {kind : SpanKind}
  {b : Placement}

/-! ## One cell -/

theorem mayMergeUp_of_merged (h : f.decisionAt triggers grid row column = .merge .rowspan ∨
    f.decisionAt triggers grid row column = .merge .span) : f.mayMergeUp row = true := by
  rcases h with hup | hboth
  · exact (allows_of_decisionAt hup).2
  · have hallows := (allows_of_decisionAt hboth).2
    simp only [allows, Bool.and_eq_true] at hallows
    exact hallows.1

theorem mayMergeLeft_of_merged (h : f.decisionAt triggers grid row column = .merge .colspan ∨
    f.decisionAt triggers grid row column = .merge .span) : f.mayMergeLeft column = true := by
  rcases h with hleft | hboth
  · exact (allows_of_decisionAt hleft).2
  · have hallows := (allows_of_decisionAt hboth).2
    simp only [allows, Bool.and_eq_true] at hallows
    exact hallows.2

/-- What the spans of a cell may be in a grid with the sections of a frame. -/
structure Within (f : Frame) (width : Nat) (b : Placement) : Prop where
  colspan_pos : 1 ≤ b.colspan
  rowspan_pos : 1 ≤ b.rowspan
  columns : b.column + b.colspan ≤ width
  rows : b.row + b.rowspan ≤ f.rows
  header : f.head = true → b.row = 0 → b.rowspan = 1
  footer : f.foot = true → b.row + 1 < f.rows → b.row + b.rowspan < f.rows
  headColumn : f.headColumn = true → b.column = 0 → b.colspan = 1

theorem placementAt?_within (hrows : f.rows = grid.length) (hrow : row < grid.length)
    (hcolumn : column < grid.width) (h : f.placementAt? triggers grid row column = some b) :
    f.Within grid.width b := by
  have hbelow := @merged_below f triggers grid row column b h
  have hbeside := @merged_beside f triggers grid row column b h
  rcases one_le_spans h with ⟨hrowspan, hcolspan⟩
  rcases placementAt?_eq_some h with ⟨⟨text, rfl⟩, _⟩
  have hheight : f.spanUp triggers grid (row + 1) column ≤ grid.length - (row + 1) + 1 :=
    lineCount_le .rowspan _ _ _
  have hwidth : f.spanLeft triggers grid row (column + 1) ≤ grid.width - (column + 1) + 1 :=
    lineCount_le .colspan _ _ _
  simp only [place] at hrowspan hcolspan hbelow hbeside ⊢
  refine ⟨hcolspan, hrowspan, ?_, ?_, ?_, ?_, ?_⟩
  · simp only
    omega
  · simp only
    omega
  · intro hhead hzero
    simp only at hzero ⊢
    -- A longer cell would have a merge out of the row below the header.
    rcases Nat.eq_or_lt_of_le hrowspan with hone | hlong
    · exact hone.symm
    · have hmay := mayMergeUp_of_merged (@hbelow 1 (by omega) (by omega))
      simp [mayMergeUp, hhead] at hmay
  · intro hfoot hbody
    simp only at hbody ⊢
    -- A cell down to the last row would have a merge out of the footer.
    rcases Nat.lt_or_ge (row + f.spanUp triggers grid (row + 1) column) f.rows with hshort | hlong
    · exact hshort
    · have hmay := mayMergeUp_of_merged (@hbelow (f.rows - 1) (by omega) (by omega))
      have hlast : f.rows - 1 + 1 = f.rows := by omega
      simp [mayMergeUp, hfoot, hlast] at hmay
  · intro hhead hzero
    simp only at hzero ⊢
    rcases Nat.eq_or_lt_of_le hcolspan with hone | hlong
    · exact hone.symm
    · have hmay := mayMergeLeft_of_merged (@hbeside 1 (by omega) (by omega))
      simp [mayMergeLeft, hhead] at hmay

end Frame

namespace LayoutEngine

variable {e : LayoutEngine} {grid : Grid} {row : LayoutRow} {b : Placement}

/-! ## Sections of the layout -/

theorem header_of_layout (h : row ∈ (e.layout grid).1.header) :
    (e.frame grid).head = true ∧ (e.layout grid).1.rows[0]? = some row := by
  rwa [header_layout, Option.mem_def, Option.ite_none_right_eq_some, List.head?_eq_getElem?] at h

theorem footer_of_layout (h : row ∈ (e.layout grid).1.footer) :
    (e.frame grid).foot = true ∧ (e.layout grid).1.rows[grid.length - 1]? = some row := by
  rwa [footer_layout, Option.mem_def, Option.ite_none_right_eq_some, List.getLast?_eq_getElem?,
    length_rows_layout] at h

/-- The rows of the body are those behind the header, and the footer comes behind them. -/
theorem body_of_layout (h : row ∈ (e.layout grid).1.body) :
    ∃ index, (e.layout grid).1.rows[index]? = some row ∧
      index + (e.layout grid).1.footer.toList.length < grid.length := by
  rcases List.getElem?_of_mem h with ⟨position, hposition⟩
  have hlt := (List.getElem?_eq_some_iff.1 hposition).1
  have hlength := length_rows_layout e grid
  simp only [TableLayout.rows, List.length_append] at hlength
  refine ⟨(e.layout grid).1.header.toList.length + position, ?_, by omega⟩
  rw [TableLayout.rows, List.append_assoc, List.getElem?_append_right (by omega),
    Nat.add_sub_cancel_left, List.getElem?_append_left hlt]
  exact hposition

/-! ## All cells -/

theorem within_of_mem_emitted (h : b ∈ e.emitted grid) : (e.frame grid).Within grid.width b := by
  rcases placementAt?_of_mem_emitted h with ⟨⟨hrow, hcolumn⟩, text, hplaced⟩
  have hwithin := Frame.placementAt?_within rfl hrow hcolumn hplaced
  exact ⟨hwithin.colspan_pos, hwithin.rowspan_pos, hwithin.columns, hwithin.rows, hwithin.header,
    hwithin.footer, hwithin.headColumn⟩

/-- Whatever the triggers are, every cell covers a position at least and stays inside the grid. A cell
of the header or the footer covers no other row, a cell of the body no row behind the body, and a cell
of a column of headers no other column. -/
theorem layout_spans_within (e : LayoutEngine) (grid : Grid) :
    let out := (e.layout grid).1
    (∀ b ∈ e.emitted grid, 1 ≤ b.colspan ∧ 1 ≤ b.rowspan ∧
        b.column + b.colspan ≤ grid.width ∧ b.row + b.rowspan ≤ grid.length ∧
        (e.settings.firstColumnHead = true → b.column = 0 → b.colspan = 1)) ∧
      (∀ row, out.header = some row ∨ out.footer = some row →
        ∀ cell ∈ row.cells, cell.rowspan = 1) ∧
      ∀ row ∈ out.body, ∀ cell ∈ row.cells,
        row.index - 1 + cell.rowspan ≤ grid.length - out.footer.toList.length := by
  intro out
  refine ⟨?_, ?_, ?_⟩
  · intro b hb
    have hwithin := within_of_mem_emitted hb
    exact ⟨hwithin.colspan_pos, hwithin.rowspan_pos, hwithin.columns, hwithin.rows,
      hwithin.headColumn⟩
  · intro row hends cell hcell
    rcases hends with hheader | hfooter
    · rcases header_of_layout hheader with ⟨hhead, hfirst⟩
      rcases exists_standingAt_mem_emitted hfirst hcell with ⟨_, column, hemitted⟩
      exact (within_of_mem_emitted hemitted).header hhead rfl
    · rcases footer_of_layout hfooter with ⟨_, hlast⟩
      rcases exists_standingAt_mem_emitted hlast hcell with ⟨_, column, hemitted⟩
      -- No row is left below the last one.
      have hrows : grid.length - 1 + cell.rowspan ≤ grid.length := (within_of_mem_emitted hemitted).rows
      have hpos : 1 ≤ cell.rowspan := (within_of_mem_emitted hemitted).rowspan_pos
      have hlt := (List.getElem?_eq_some_iff.1 hlast).1
      rw [length_rows_layout] at hlt
      omega
  · intro row hbody cell hcell
    rcases body_of_layout hbody with ⟨index, hindex, hbefore⟩
    rcases exists_standingAt_mem_emitted hindex hcell with ⟨hnumber, column, hemitted⟩
    have hrows : index + cell.rowspan ≤ grid.length := (within_of_mem_emitted hemitted).rows
    change row.index - 1 + cell.rowspan ≤ grid.length - (e.layout grid).1.footer.toList.length
    rw [hnumber, Nat.add_sub_cancel]
    cases hfooter : (e.layout grid).1.footer with
    | none => simpa using hrows
    | some last =>
      rw [hfooter, Option.toList_some, List.length_singleton] at hbefore
      have hshort : index + cell.rowspan < grid.length :=
        (within_of_mem_emitted hemitted).footer (footer_of_layout hfooter).1 hbefore
      rw [Option.toList_some, List.length_singleton]
      omega

end LayoutEngine
end SheetMarkup
