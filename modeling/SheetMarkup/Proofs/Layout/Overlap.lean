import SheetMarkup.Proofs.Layout.Emitted
import SheetMarkup.Proofs.Layout.Tiling

/-!
# Overlap — where two written cells cover one position

The counters of a column and of a row know nothing of each other: a cell that is merged with cells below
it and with cells beside it covers the rectangle between them, whatever is written there. What the
counters do guarantee is the row and the column a cell stands in, where everything it covers is merged
into it. So two cells can only meet away from these: one stands inside the other, or one reaches down
and the other to the right through a cell that is merged in both directions.

* `Placement.Encloses`, `Placement.Crosses`: the two ways to meet
* `covered_iff_of_before`: two written cells
* `layout_overlap_iff`: all cells of a layout
-/

namespace SheetMarkup

/-- A cell stands inside another, neither in its first row nor in its first column. -/
def Placement.Encloses (b c : Placement) : Prop :=
  (b.row < c.row ∧ c.row < b.row + b.rowspan) ∧ b.column < c.column ∧ c.column < b.column + b.colspan

/-- A cell reaches down through the row of another, which reaches to the right through its column. -/
def Placement.Crosses (b c : Placement) : Prop :=
  (b.row < c.row ∧ c.row < b.row + b.rowspan) ∧ c.column < b.column ∧ b.column < c.column + c.colspan

namespace Frame

variable {f : Frame} {triggers : SpanTriggers} {grid : Grid} {b c : Placement}

/-! ## Two cells -/

/-- Nothing is written below a cell that covers the position. -/
theorem not_below (hb : f.placementAt? triggers grid b.row b.column = some b)
    (hc : f.placementAt? triggers grid c.row b.column = some c) (habove : b.row < c.row) :
    b.row + b.rowspan ≤ c.row := by
  rcases Nat.lt_or_ge c.row (b.row + b.rowspan) with hreach | hclear
  · rcases merged_below hb habove hreach with hmerged | hmerged
    · exact absurd hmerged ((placementAt?_eq_some hc).2 _)
    · exact absurd hmerged ((placementAt?_eq_some hc).2 _)
  · exact hclear

theorem not_beside (hb : f.placementAt? triggers grid b.row b.column = some b)
    (hc : f.placementAt? triggers grid b.row c.column = some c) (hbefore : b.column < c.column) :
    b.column + b.colspan ≤ c.column := by
  rcases Nat.lt_or_ge c.column (b.column + b.colspan) with hreach | hclear
  · rcases merged_beside hb hbefore hreach with hmerged | hmerged
    · exact absurd hmerged ((placementAt?_eq_some hc).2 _)
    · exact absurd hmerged ((placementAt?_eq_some hc).2 _)
  · exact hclear

/-- Where two cells cross, the cell asks to be merged in both directions. -/
theorem span_of_crosses (hb : f.placementAt? triggers grid b.row b.column = some b)
    (hc : f.placementAt? triggers grid c.row c.column = some c) (h : b.Crosses c) :
    grid.cell? c.row b.column = some triggers.span := by
  rcases h with ⟨⟨habove, hreach⟩, hbefore, hreach'⟩
  have hspan : f.decisionAt triggers grid c.row b.column = .merge .span := by
    -- The one that reaches down allows no merge to the left alone, the other one none upwards alone.
    rcases merged_below hb habove hreach with hup | hboth
    · rcases merged_beside hc hbefore hreach' with hleft | hboth
      · rw [hup] at hleft
        cases hleft
      · exact hboth
    · exact hboth
  have hclassify := (allows_of_decisionAt hspan).1
  have htext := SpanTriggers.eq_keyword_of_classify hclassify
  have hfull := SpanTriggers.ne_empty_of_classify hclassify
  unfold Grid.textAt at htext hfull
  cases hcell : grid.cell? c.row b.column with
  | none => simp [hcell] at hfull
  | some text =>
    rw [hcell] at htext
    exact congrArg some htext

theorem covered_iff_of_before (hb : f.placementAt? triggers grid b.row b.column = some b)
    (hc : f.placementAt? triggers grid c.row c.column = some c) (h : b.Before c) :
    (∃ row column, b.Covers row column ∧ c.Covers row column) ↔
      b.Encloses c ∨ (b.Crosses c ∧ grid.cell? c.row b.column = some triggers.span) := by
  rcases one_le_spans hb with ⟨_, hcolspan⟩
  rcases one_le_spans hc with ⟨hrowspan, hcolspan'⟩
  constructor
  · rintro ⟨row, column, ⟨⟨htop, hbottom⟩, hleft, hright⟩, ⟨htop', hbottom'⟩, hleft', hright'⟩
    rcases h with habove | ⟨hsame, hbefore⟩
    · rcases Nat.lt_trichotomy b.column c.column with hbefore | hsame | hafter
      · exact Or.inl ⟨⟨habove, by omega⟩, hbefore, by omega⟩
      · have hclear := not_below hb (by rw [hsame]; exact hc) habove
        omega
      · have hcrosses : b.Crosses c := ⟨⟨habove, by omega⟩, hafter, by omega⟩
        exact Or.inr ⟨hcrosses, span_of_crosses hb hc hcrosses⟩
    · have hclear := not_beside hb (by rw [hsame]; exact hc) hbefore
      omega
  · rintro (⟨⟨habove, hreach⟩, hbefore, hreach'⟩ | ⟨⟨⟨habove, hreach⟩, hafter, hreach'⟩, _⟩)
    · exact ⟨c.row, c.column, ⟨⟨by omega, by omega⟩, by omega, by omega⟩,
        ⟨by omega, by omega⟩, by omega, by omega⟩
    · exact ⟨c.row, b.column, ⟨⟨by omega, by omega⟩, by omega, by omega⟩,
        ⟨by omega, by omega⟩, by omega, by omega⟩

end Frame

namespace LayoutEngine

/-! ## All cells -/

/-- Of two cells of a layout, `b` coming before `c`, both cover some position exactly if `c` stands
inside `b`, or if `b` reaches down and `c` to the right through a cell that is merged in both
directions. -/
theorem layout_overlap_iff (e : LayoutEngine) (grid : Grid) :
    (e.emitted grid).Pairwise fun b c => b.Before c ∧
      ((∃ row column, b.Covers row column ∧ c.Covers row column) ↔
        b.Encloses c ∨ (b.Crosses c ∧ grid.cell? c.row b.column = some e.triggers.span)) := by
  refine (emitted_inOrder e grid).imp_of_mem ?_
  intro b c hb hc hbefore
  rcases placementAt?_of_mem_emitted hb with ⟨_, text, hplaced⟩
  rcases placementAt?_of_mem_emitted hc with ⟨_, text', hplaced'⟩
  -- Where a cell stands and what it covers has nothing to do with its text.
  exact ⟨hbefore, Frame.covered_iff_of_before (b := { b with text }) (c := { c with text := text' })
    hplaced hplaced' hbefore⟩

/-- The cell with `a` reaches down and the one with `b` to the right, both through the second one of the
second row. -/
example :
    (LayoutEngine.start "1" { RenderSettings.default with tableHead := false } {}).emitted
        [["x", "a", "y"], ["b", "#span#", "#colspan#"], ["z", "#rowspan#", "w"]] =
      [⟨0, 0, "x", 1, 1⟩, ⟨0, 1, "a", 1, 2⟩, ⟨0, 2, "y", 1, 1⟩, ⟨1, 0, "b", 2, 1⟩,
        ⟨2, 0, "z", 1, 1⟩, ⟨2, 2, "w", 1, 1⟩] := by decide

/-- A block of two rows and two columns whose last cell is not merged: that cell is written inside it. -/
theorem not_disjoint_of_open_block :
    let e := LayoutEngine.start "1" { RenderSettings.default with tableHead := false } {}
    let grid : Grid := [["a", "#colspan#"], ["#rowspan#", "x"]]
    e.triggers = {} ∧ (e.layout grid).1.rows.map (fun row => row.cells.map fun cell =>
        (cell.content, cell.colspan, cell.rowspan)) = [[("a", 2, 2)], [("x", 1, 1)]] ∧
      ¬ (e.emitted grid).Pairwise fun b c =>
        ∀ row column, b.Covers row column → ¬ c.Covers row column := by
  intro e grid
  refine ⟨rfl, by decide, ?_⟩
  intro h
  have hemitted : e.emitted grid = [⟨0, 0, "a", 2, 2⟩, ⟨1, 1, "x", 1, 1⟩] := by decide
  rw [hemitted] at h
  exact List.pairwise_pair.1 h 1 1 (by decide) (by decide)

end LayoutEngine
end SheetMarkup
