import SheetMarkup.Proofs.Layout.Contents
import SheetMarkup.Proofs.Layout.Tiling

/-!
# Merge round trip — every tiling can be written with triggers

The walk keeps one counter for each column and one for the row, and all rectangles share them. What
a counter holds depends only on the rectangle that the walk has just left: while that rectangle goes
on, its left column counts its rows and its top row counts its columns, and when the walk enters
another one the counter is back at 1. So the corner of each rectangle finds its height and its width.

* `Tiling.upCount`, `Tiling.leftCount`: the counters by the rectangles
* `Tiling.Keeps`: rectangles that do not reach from one section into another
* `walkCells_encode`, `walkRows_encode`: the walk over the grid of a tiling
* `layout_encode`: the layout of the grid of a tiling
-/

namespace SheetMarkup

/-- The texts of triggers are read back as what they ask for. -/
def SpanTriggers.Distinct (triggers : SpanTriggers) : Prop :=
  ∀ kind, triggers.classify (triggers.keyword kind) = some kind

theorem SpanTriggers.distinct_default : SpanTriggers.Distinct {} := by
  intro kind
  cases kind <;> decide

namespace Tiling

variable {rows columns : Nat} {t : Tiling rows columns} {b : Placement} {row column : Nat}

/-! ## Counters -/

/-- The counter of a column when the walk has passed a row: in the left column of a rectangle the
rows passed count, until its corner is written. -/
def upCount (t : Tiling rows columns) (row column : Nat) : Nat :=
  match t.blockAt? row column with
  | none => 1
  | some b => if b.row < row ∧ column = b.column then b.row + b.rowspan - row + 1 else 1

/-- The counter of a row when the walk has passed a column: in the top row of a rectangle the columns
passed count, until its corner is written. -/
def leftCount (t : Tiling rows columns) (row column : Nat) : Nat :=
  match t.blockAt? row column with
  | none => 1
  | some b => if row = b.row ∧ b.column < column then b.column + b.colspan - column + 1 else 1

/-- What a position finds in the counter of its column. -/
theorem upCount_succ (h : t.blockAt? row column = some b) :
    t.upCount (row + 1) column = if column = b.column then b.row + b.rowspan - row else 1 := by
  rcases blockAt?_eq_some_iff.1 h with ⟨_, ⟨htop, hbottom⟩, _⟩
  unfold upCount
  rcases blockAt?_below h with hsame | ⟨hend, hnext⟩
  · simp only [hsame, Nat.lt_succ_of_le htop, true_and]
    split <;> omega
  · -- The rectangle ends here, and both sides are 1 whatever comes below.
    cases hbelow : t.blockAt? (row + 1) column with
    | none =>
      simp only
      split <;> omega
    | some c =>
      have hstart : ¬ c.row < row + 1 := Nat.not_lt.2 (hnext c hbelow)
      simp only [hstart, false_and, if_false]
      split <;> omega

/-- What a position finds in the counter of its row. -/
theorem leftCount_succ (h : t.blockAt? row column = some b) :
    t.leftCount row (column + 1) = if row = b.row then b.column + b.colspan - column else 1 := by
  rcases blockAt?_eq_some_iff.1 h with ⟨_, _, hleft, hright⟩
  unfold leftCount
  rcases blockAt?_right h with hsame | ⟨hend, hnext⟩
  · simp only [hsame, Nat.lt_succ_of_le hleft, and_true]
    split <;> omega
  · cases hbeside : t.blockAt? row (column + 1) with
    | none =>
      simp only
      split <;> omega
    | some c =>
      have hstart : ¬ c.column < column + 1 := Nat.not_lt.2 (hnext c hbeside)
      simp only [hstart, and_false, if_false]
      split <;> omega

/-- Beyond the last row and the last column every counter is at 1. -/
theorem upCount_rows (t : Tiling rows columns) (column : Nat) : t.upCount rows column = 1 := by
  unfold upCount
  cases hblock : t.blockAt? rows column with
  | none => rfl
  | some b => exact absurd (lt_of_blockAt? hblock).1 (Nat.lt_irrefl rows)

theorem leftCount_columns (t : Tiling rows columns) (row : Nat) : t.leftCount row columns = 1 := by
  unfold leftCount
  cases hblock : t.blockAt? row columns with
  | none => rfl
  | some b => exact absurd (lt_of_blockAt? hblock).2 (Nat.lt_irrefl columns)

/-! ## Merges that are allowed -/

/-- No rectangle reaches from one section into another, nor out of a column of headers. -/
structure Keeps (t : Tiling rows columns) (f : Frame) : Prop where
  part_eq : ∀ b ∈ t.blocks, ∀ row column row' column', b.Covers row column →
    b.Covers row' column' → f.part row = f.part row'
  headColumn : f.headColumn = true → ∀ b ∈ t.blocks, ∀ row row', b.Covers row 0 → ¬ b.Covers row' 1

variable {f : Frame} {triggers : SpanTriggers}

/-- It is enough to look at each row of a rectangle and at the rectangles that start in column 0. -/
theorem Keeps.of_blocks (hpart : ∀ b ∈ t.blocks, ∀ row < b.row + b.rowspan, b.row ≤ row →
      f.part row = f.part b.row)
    (hcolumn : f.headColumn = true → ∀ b ∈ t.blocks, b.column = 0 → b.colspan ≤ 1) :
    t.Keeps f where
  part_eq b hb row column row' column' hcovers hcovers' :=
    (hpart b hb row hcovers.1.2 hcovers.1.1).trans (hpart b hb row' hcovers'.1.2 hcovers'.1.1).symm
  headColumn hhead b hb row row' hcovers hcovers' := by
    -- A rectangle over columns 0 and 1 starts in column 0 and is wider than one column.
    have hzero : b.column = 0 := by
      have hleft := hcovers.2.1
      omega
    have hwidth := hcolumn hhead b hb hzero
    have hright := hcovers'.2.2
    omega

theorem part_eq_header_iff : f.part row = .header ↔ f.head = true ∧ row = 0 := by
  unfold Frame.part
  cases f.head <;> by_cases hrow : row = 0 <;> simp [hrow] <;> split <;> simp

theorem part_eq_footer (hfoot : f.foot = true) (hlast : row + 1 = f.rows) (hrow : row ≠ 0) :
    f.part row = .footer := by
  simp [Frame.part, hfoot, hlast, hrow]

theorem rows_eq_of_part_eq_footer (h : f.part row = .footer) : row + 1 = f.rows := by
  unfold Frame.part at h
  split at h
  · cases h
  · split at h
    · rename_i hfoot
      simp only [Bool.and_eq_true, beq_iff_eq] at hfoot
      exact hfoot.2
    · cases h

theorem Keeps.mayMergeUp (h : t.Keeps f) (hb : b ∈ t.blocks) (hcovers : b.Covers row column)
    (hrow : row ≠ b.row) : f.mayMergeUp row = true := by
  rcases hcovers with ⟨⟨htop, hbottom⟩, hcolumns⟩
  have habove : b.Covers (row - 1) column := ⟨⟨by omega, by omega⟩, hcolumns⟩
  have hpart := h.part_eq b hb row column (row - 1) column ⟨⟨htop, hbottom⟩, hcolumns⟩ habove
  have hzero : row ≠ 0 := by omega
  -- Below the header the rectangle would reach from one section into another.
  have hheader : (f.head && row == 1) = false := by
    rw [Bool.eq_false_iff]
    intro hhead
    simp only [Bool.and_eq_true, beq_iff_eq] at hhead
    rcases hhead with ⟨hhead, rfl⟩
    have hfirst : f.part (1 - 1) = .header := part_eq_header_iff.2 ⟨hhead, rfl⟩
    exact hzero (part_eq_header_iff.1 (hpart.trans hfirst)).2
  -- So it would into the footer.
  have hfooter : (f.foot && row + 1 == f.rows) = false := by
    rw [Bool.eq_false_iff]
    intro hfoot
    simp only [Bool.and_eq_true, beq_iff_eq] at hfoot
    rcases hfoot with ⟨hfoot, hlast⟩
    have hrows := rows_eq_of_part_eq_footer (hpart.symm.trans (part_eq_footer hfoot hlast hzero))
    omega
  simp [Frame.mayMergeUp, hzero, hheader, hfooter]

theorem Keeps.mayMergeLeft (h : t.Keeps f) (hb : b ∈ t.blocks) (hcovers : b.Covers row column)
    (hcolumn : column ≠ b.column) : f.mayMergeLeft column = true := by
  rcases hcovers with ⟨hrows, hleft, hright⟩
  have hzero : column ≠ 0 := by omega
  cases hhead : f.headColumn with
  | false => simp [Frame.mayMergeLeft, hhead, hzero]
  | true =>
    have hone : column ≠ 1 := by
      rintro rfl
      exact h.headColumn hhead b hb row row ⟨hrows, by omega, by omega⟩ ⟨hrows, hleft, hright⟩
    simp [Frame.mayMergeLeft, hhead, hzero, hone]

/-- The corner of a rectangle is written, and every other position of it is merged. -/
theorem decide_textAt (hdistinct : triggers.Distinct) (hkeeps : t.Keeps f)
    (hblock : t.blockAt? row column = some b) (htext : triggers.classify b.text = none) :
    f.decide triggers row column (t.textAt triggers row column) =
      match b.spanKind? row column with
      | none => .write
      | some kind => .merge kind := by
  rcases blockAt?_eq_some_iff.1 hblock with ⟨hb, hcovers⟩
  unfold textAt
  rw [hblock]
  unfold Frame.decide
  cases hkind : b.spanKind? row column with
  | none => simp [hkind, htext]
  | some kind =>
    -- Each trigger stands where the merges it asks for stay within its rectangle.
    have hallows : f.allows row column kind = true := by
      unfold Placement.spanKind? at hkind
      split at hkind
      · split at hkind
        · cases hkind
        · rename_i hcolumn
          cases hkind
          exact hkeeps.mayMergeLeft hb hcovers hcolumn
      · rename_i hrow
        split at hkind
        · cases hkind
          exact hkeeps.mayMergeUp hb hcovers hrow
        · rename_i hcolumn
          cases hkind
          simp [Frame.allows, hkeeps.mayMergeUp hb hcovers hrow,
            hkeeps.mayMergeLeft hb hcovers hcolumn]
    simp [hkind, hdistinct kind, hallows]

/-! ## The walk -/

/-- The walk along a row writes the rectangles that start in it and leaves the counters of the row. -/
theorem walkCells_encode (hdistinct : triggers.Distinct) (hkeeps : t.Keeps f)
    (htexts : ∀ b ∈ t.blocks, triggers.classify b.text = none) (hrow : row < rows) {n : Nat}
    (hcolumns : column + n = columns) :
    f.walkCells triggers row column ((List.range' column n).map (t.textAt triggers row))
        ((List.range' column n).map (t.upCount (row + 1))) =
      ⟨t.leftCount row column, (List.range' column n).map (t.upCount row),
        (List.range' column n).filterMap (t.startingAt? row), []⟩ := by
  induction n generalizing column with
  | zero =>
    have hend : column = columns := by omega
    subst hend
    simp [Frame.walkCells, leftCount_columns]
  | succ n ih =>
    -- The block at the position says which trigger stands there, and both counters by how far it reaches.
    rcases t.exists_blockAt? hrow (show column < columns by omega) with ⟨b, hblock⟩
    rcases blockAt?_eq_some_iff.1 hblock with ⟨hb, ⟨htop, hbottom⟩, hleft, hright⟩
    have hdecide := decide_textAt hdistinct hkeeps hblock (htexts b hb)
    have hcells := ih (show column + 1 + n = columns by omega)
    have hbelow := upCount_succ hblock
    have hnext := leftCount_succ hblock
    simp only [List.range'_succ, List.map_cons, List.filterMap_cons, Frame.walkCells,
      List.tail_cons, List.headD_cons, hcells, hdecide]
    by_cases hrow' : row = b.row
    · by_cases hcolumn' : column = b.column
      · -- The corner: both counters are complete and start again.
        subst hrow' hcolumn'
        have htext : t.textAt triggers b.row b.column = b.text := by
          simp [textAt, hblock, Placement.spanKind?]
        have hup : t.upCount b.row b.column = 1 := by simp [upCount, hblock]
        have hcount : t.leftCount b.row b.column = 1 := by simp [leftCount, hblock]
        have hstart : t.startingAt? b.row b.column = some b := by simp [startingAt?, hblock]
        simp [Placement.spanKind?, hbelow, hnext, htext, hup, hcount, hstart, RowWalk.write]
      · -- The top row: the counter of the row goes on, and that of the column starts again.
        subst hrow'
        have hlt : b.column < column := by omega
        have hup : t.upCount b.row column = 1 := by simp [upCount, hblock]
        have hcount : t.leftCount b.row column = b.column + b.colspan - column + 1 := by
          simp [leftCount, hblock, hlt]
        have hstart : t.startingAt? b.row column = none := by
          simp [startingAt?, hblock, hcolumn']
        simp [Placement.spanKind?, hcolumn', hnext, hup, hcount, hstart]
    · have hlt : b.row < row := by omega
      by_cases hcolumn' : column = b.column
      · -- The left column: the counter of the column goes on, and that of the row starts again.
        subst hcolumn'
        have hup : t.upCount row b.column = b.row + b.rowspan - row + 1 := by
          simp [upCount, hblock, hlt]
        have hcount : t.leftCount row b.column = 1 := by simp [leftCount, hblock]
        have hstart : t.startingAt? row b.column = none := by simp [startingAt?, hblock, hrow']
        simp [Placement.spanKind?, hrow', hbelow, hup, hcount, hstart]
      · -- Elsewhere both counters stand at 1 already.
        have hup : t.upCount row column = 1 := by simp [upCount, hblock, hcolumn']
        have hcount : t.leftCount row column = 1 := by simp [leftCount, hblock, hrow']
        have hstart : t.startingAt? row column = none := by simp [startingAt?, hblock, hrow']
        simp [Placement.spanKind?, hrow', hcolumn', hbelow, hnext, hup, hcount, hstart]

/-- The walk through the rows writes the rectangles by the rows they start in, and refuses nothing. -/
theorem walkRows_encode (hdistinct : triggers.Distinct) (hkeeps : t.Keeps f)
    (htexts : ∀ b ∈ t.blocks, triggers.classify b.text = none) {n : Nat} (hrows : row + n = rows) :
    f.walkRows triggers columns row
        ((List.range' row n).map fun row => (List.range columns).map (t.textAt triggers row)) =
      ⟨(List.range columns).map (t.upCount row), (List.range' row n).map t.startingIn, []⟩ := by
  induction n generalizing row with
  | zero =>
    have hend : row = rows := by omega
    subst hend
    -- Below the last row nothing has been passed, so every counter is at 1.
    have hcounts : (List.range columns).map (t.upCount row) = List.replicate columns 1 := by
      simp [List.eq_replicate_iff, upCount_rows]
    simp [Frame.walkRows, hcounts]
  | succ n ih =>
    have hbelow := ih (show row + 1 + n = rows by omega)
    have hcells := walkCells_encode hdistinct hkeeps htexts (show row < rows by omega)
      (Nat.zero_add columns)
    rw [← List.range_eq_range'] at hcells
    simp only [List.range'_succ, List.map_cons, Frame.walkRows, hbelow, hcells, List.append_nil,
      startingIn]

/-! ## The layout -/

theorem length_of_mem_encode (t : Tiling rows columns) (triggers : SpanTriggers) :
    ∀ cells ∈ t.encode triggers, cells.length = columns := by
  intro cells hcells
  rcases List.mem_map.1 hcells with ⟨row, _, rfl⟩
  simp

theorem width_encode (t : Tiling rows columns) (triggers : SpanTriggers) (hrows : 0 < rows) :
    (t.encode triggers).width = columns := by
  apply Grid.width_eq_of_forall_length
  · have hne : rows ≠ 0 := by omega
    simpa [encode] using hne
  · exact t.length_of_mem_encode triggers

theorem padded_encode (t : Tiling rows columns) (triggers : SpanTriggers) (hrows : 0 < rows) :
    (t.encode triggers).padded = t.encode triggers := by
  apply Grid.padded_eq_self
  rw [t.width_encode triggers hrows]
  exact t.length_of_mem_encode triggers

/-- The walk over the grid of a tiling. -/
theorem walk_encode (hdistinct : triggers.Distinct) (hkeeps : t.Keeps f)
    (htexts : ∀ b ∈ t.blocks, triggers.classify b.text = none) (hrows : 0 < rows) :
    (f.walk triggers (t.encode triggers)).written = (List.range rows).map t.startingIn ∧
      (f.walk triggers (t.encode triggers)).refused = [] := by
  have hwalk := walkRows_encode hdistinct hkeeps htexts (Nat.zero_add rows)
  rw [← List.range_eq_range'] at hwalk
  unfold Frame.walk
  rw [padded_encode t triggers hrows, width_encode t triggers hrows, encode, hwalk]
  exact ⟨rfl, rfl⟩

end Tiling

namespace LayoutEngine

/-- Merge round trip. The layout of the grid of a tiling has one cell for each rectangle, in the row
and the column of its corner and with its width and height as spans, and nothing is refused. -/
theorem layout_encode (tableId : String) (settings : RenderSettings) {rows columns : Nat}
    (hrows : 0 < rows) (t : Tiling rows columns)
    (htexts : ∀ b ∈ t.blocks, SpanTriggers.classify {} b.text = none)
    (hkeeps : t.Keeps ((LayoutEngine.start tableId settings {}).frame (t.encode {}))) :
    let e := LayoutEngine.start tableId settings {}
    let rowsOut := (e.layout (t.encode {})).1.rows
    rowsOut = (List.range rows).map (fun row => e.row (e.frame (t.encode {})) row (t.startingIn row)) ∧
      rowsOut.map (fun r => (r.index, r.cells.map fun c => (c.cssClass, c.colspan, c.rowspan))) =
        (List.range rows).map (fun row => (row + 1, (t.startingIn row).map fun b =>
          ("column-" ++ toString (b.column + 1), b.colspan, b.rowspan))) ∧
      ((List.range rows).flatMap t.startingIn).Perm t.blocks ∧
      (e.layout (t.encode {})).2.warnings = [] := by
  intro e rowsOut
  have hwalk := Tiling.walk_encode SpanTriggers.distinct_default hkeeps htexts hrows
  have htriggers : e.triggers = {} := rfl
  have hrowsOut : rowsOut =
      (List.range rows).map fun row => e.row (e.frame (t.encode {})) row (t.startingIn row) := by
    have hlayout := e.rows_layout (t.encode {})
    rw [htriggers, hwalk.1] at hlayout
    rw [show rowsOut = _ from hlayout]
    apply List.ext_getElem
    · simp
    · intro row hrow hrow'
      simp
  refine ⟨hrowsOut, ?_, t.inOrder_perm, ?_⟩
  · rw [hrowsOut, List.map_map]
    apply List.map_congr_left
    intro row _
    simp [LayoutEngine.row, LayoutEngine.cell, e, LayoutEngine.start]
  · have hrefused : (e.layout (t.encode {})).2.warnings =
        ((e.frame (t.encode {})).walk e.triggers (t.encode {})).refused.map e.warning := rfl
    rw [hrefused, htriggers, hwalk.2]
    rfl

/-- A header row, a body with a block of two rows and two columns, and a footer row, beside a column of
headers. -/
def framedTiling : Tiling 4 3 where
  blocks := [⟨0, 0, "", 1, 1⟩, ⟨0, 1, "years", 2, 1⟩, ⟨1, 0, "sum", 1, 2⟩, ⟨1, 1, "7", 2, 2⟩,
    ⟨3, 0, "all", 1, 1⟩, ⟨3, 1, "8", 2, 1⟩]
  rowspan_pos := by decide
  colspan_pos := by decide
  within := by decide
  disjoint := List.Pairwise.imp Placement.not_covers_of_apart (by decide)
  covering := by decide

theorem layout_encode_framedTiling :
    framedTiling.encode {} = [["", "years", "#colspan#"], ["sum", "7", "#colspan#"],
        ["#rowspan#", "#rowspan#", "#span#"], ["all", "8", "#colspan#"]] ∧
      ((LayoutEngine.start "1" { RenderSettings.default with
          firstColumnHead := true, tableFoot := true } {}).layout (framedTiling.encode {})).1.rows.map
        (fun r => (r.index, r.cells.map fun c => (c.cssClass, c.colspan, c.rowspan))) =
      (List.range 4).map (fun row => (row + 1, (framedTiling.startingIn row).map fun b =>
        ("column-" ++ toString (b.column + 1), b.colspan, b.rowspan))) :=
  ⟨by decide, (layout_encode "1" { RenderSettings.default with
    firstColumnHead := true, tableFoot := true } (by decide) framedTiling (by decide)
    (Tiling.Keeps.of_blocks (by decide) (by decide))).2.1⟩

end LayoutEngine
end SheetMarkup
