import SheetMarkup.Layout.Walk
import SheetMarkup.Proofs.Grid.Cells

/-!
# Counters — what the walk counts at a position

The walk keeps its counters while it passes from cell to cell. What a counter holds at a position can
be read off the decisions behind it: along a column the merges upwards, along a row the merges to the
left, up to the first cell that sets the counter back. A merge in both directions leaves both counters
as they are. So every cell that is written can be told, with its spans, from the grid alone.

* `Decision.counted`, `lineCount`: what one decision does to a counter, and a line of them
* `merged_of_lineCount`: what stands where a counter reaches
* `Frame.placementAt?`: the cell that is written at a position
* `walk_written`: the walk writes these cells, row by row and from left to right
-/

namespace SheetMarkup

/-! ## Triggers -/

namespace SpanTriggers

variable {t : SpanTriggers} {text : String} {kind : SpanKind}

/-- A text that asks for a merge is the trigger for it. -/
theorem eq_keyword_of_classify (h : t.classify text = some kind) : text = t.keyword kind := by
  unfold classify at h
  split at h
  · cases h
  · split at h
    · rename_i hrowspan
      cases h
      exact hrowspan
    · split at h
      · rename_i hcolspan
        cases h
        exact hcolspan
      · split at h
        · rename_i hspan
          cases h
          exact hspan
        · cases h

theorem ne_empty_of_classify (h : t.classify text = some kind) : text ≠ "" := by
  rintro rfl
  simp [classify] at h

end SpanTriggers

/-! ## Lines of decisions -/

/-- A counter of merges of one kind after a decision: a merge in both directions leaves it, and
everything but a merge of that kind sets it back. -/
def Decision.counted (own : SpanKind) (count : Nat) : Decision → Nat
  | .merge kind => if kind = own then count + 1 else if kind = .span then count else 1
  | .refuse _ => 1
  | .write => 1

theorem Decision.counted_cases (own : SpanKind) (count : Nat) (d : Decision) :
    (d = .merge own ∧ d.counted own count = count + 1) ∨
      (d = .merge .span ∧ d.counted own count = count) ∨ d.counted own count = 1 := by
  cases d with
  | merge kind =>
    by_cases hown : kind = own
    · subst hown
      exact Or.inl ⟨rfl, by simp [counted]⟩
    · by_cases hspan : kind = .span
      · subst hspan
        exact Or.inr (Or.inl ⟨rfl, by simp [counted, hown]⟩)
      · exact Or.inr (Or.inr (by simp [counted, hown, hspan]))
  | refuse kind => exact Or.inr (Or.inr rfl)
  | write => exact Or.inr (Or.inr rfl)

/-- The counter when the decisions of a line from a position on, `left` of them, have been passed from
the far end. -/
def lineCount (own : SpanKind) (line : Nat → Decision) : (left start : Nat) → Nat
  | 0, _ => 1
  | left + 1, start => (line start).counted own (lineCount own line left (start + 1))

section Line

variable (own : SpanKind) (line : Nat → Decision) (left start : Nat)

theorem one_le_lineCount : 1 ≤ lineCount own line left start := by
  induction left generalizing start with
  | zero => exact Nat.le_refl 1
  | succ left ih =>
    have hnext := ih (start + 1)
    simp only [lineCount]
    rcases Decision.counted_cases own (lineCount own line left (start + 1)) (line start) with
      ⟨_, hcount⟩ | ⟨_, hcount⟩ | hcount <;> omega

/-- A counter grows by one with each decision at most. -/
theorem lineCount_le : lineCount own line left start ≤ left + 1 := by
  induction left generalizing start with
  | zero => exact Nat.le_refl 1
  | succ left ih =>
    have hnext := ih (start + 1)
    simp only [lineCount]
    rcases Decision.counted_cases own (lineCount own line left (start + 1)) (line start) with
      ⟨_, hcount⟩ | ⟨_, hcount⟩ | hcount <;> omega

end Line

/-- Where a counter reaches, every cell is merged in its direction. -/
theorem merged_of_lineCount {own : SpanKind} (line : Nat → Decision) {left start position : Nat}
    (hstart : start ≤ position) (hreach : position + 1 < start + lineCount own line left start) :
    line position = .merge own ∨ line position = .merge .span := by
  induction left generalizing start with
  | zero =>
    simp only [lineCount] at hreach
    omega
  | succ left ih =>
    simp only [lineCount] at hreach
    -- The first cell of the line is merged, or the counter would not reach beyond it.
    rcases Decision.counted_cases own (lineCount own line left (start + 1)) (line start) with
      ⟨hfirst, hcount⟩ | ⟨hfirst, hcount⟩ | hcount
    · rcases Nat.eq_or_lt_of_le hstart with rfl | hlater
      · exact Or.inl hfirst
      · have hnext : start + 1 ≤ position := hlater
        exact ih hnext (by omega)
    · rcases Nat.eq_or_lt_of_le hstart with rfl | hlater
      · exact Or.inr hfirst
      · have hnext : start + 1 ≤ position := hlater
        exact ih hnext (by omega)
    · omega

/-! ## The walk -/

namespace Frame

variable (f : Frame) (triggers : SpanTriggers) (grid : Grid)

def decisionAt (row column : Nat) : Decision :=
  f.decide triggers row column (grid.textAt row column)

/-- The rows that a cell above a position would cover. -/
def spanUp (row column : Nat) : Nat :=
  lineCount .rowspan (fun row => f.decisionAt triggers grid row column) (grid.length - row) row

def spanLeft (row column : Nat) : Nat :=
  lineCount .colspan (f.decisionAt triggers grid row) (grid.width - column) column

def place (row column : Nat) (text : String) : Placement where
  row
  column
  text
  colspan := f.spanLeft triggers grid row (column + 1)
  rowspan := f.spanUp triggers grid (row + 1) column

def placementAt? (row column : Nat) : Option Placement :=
  match f.decisionAt triggers grid row column with
  | .merge _ => none
  | .refuse _ => some (f.place triggers grid row column blankText)
  | .write => some (f.place triggers grid row column (grid.textAt row column))

variable {grid} {row column : Nat}

theorem spanUp_of_lt (column : Nat) (h : row < grid.length) :
    f.spanUp triggers grid row column =
      (f.decisionAt triggers grid row column).counted .rowspan
        (f.spanUp triggers grid (row + 1) column) := by
  have hleft : grid.length - row = grid.length - (row + 1) + 1 := by omega
  simp only [spanUp, hleft, lineCount]

theorem spanLeft_of_lt (row : Nat) (h : column < grid.width) :
    f.spanLeft triggers grid row column =
      (f.decisionAt triggers grid row column).counted .colspan
        (f.spanLeft triggers grid row (column + 1)) := by
  have hleft : grid.width - column = grid.width - (column + 1) + 1 := by omega
  simp only [spanLeft, hleft, lineCount]

/-- The walk along a row leaves the counters at its positions and writes its cells. -/
theorem walkCells_eq (hrow : row < grid.length) {n : Nat} (hcolumns : column + n = grid.width) :
    ∃ refused, f.walkCells triggers row column ((List.range' column n).map (grid.textAt row))
        ((List.range' column n).map (f.spanUp triggers grid (row + 1))) =
      ⟨f.spanLeft triggers grid row column,
        (List.range' column n).map (f.spanUp triggers grid row),
        (List.range' column n).filterMap (f.placementAt? triggers grid row), refused⟩ := by
  induction n generalizing column with
  | zero =>
    have hend : grid.width - column = 0 := by omega
    exact ⟨[], by simp [walkCells, spanLeft, hend, lineCount]⟩
  | succ n ih =>
    rcases ih (show column + 1 + n = grid.width by omega) with ⟨refused, hcells⟩
    have hup := spanUp_of_lt f triggers column hrow
    have hleft := spanLeft_of_lt f triggers row (show column < grid.width by omega)
    have hdecision : f.decide triggers row column (grid.textAt row column) =
        f.decisionAt triggers grid row column := rfl
    simp only [List.range'_succ, List.map_cons, List.filterMap_cons, walkCells, List.tail_cons,
      List.headD_cons, hcells, hdecision, hup, hleft, placementAt?]
    -- What is done with the counters follows the decision.
    cases f.decisionAt triggers grid row column with
    | merge kind =>
      cases kind with
      | rowspan => exact ⟨_, rfl⟩
      | colspan => exact ⟨_, rfl⟩
      | span => exact ⟨_, rfl⟩
    | refuse kind => exact ⟨_, rfl⟩
    | write => exact ⟨_, rfl⟩

/-- The walk through the rows leaves the counters at its positions and writes the cells of each row. -/
theorem walkRows_eq {n : Nat} (hrows : row + n = grid.length) :
    ∃ refused, f.walkRows triggers grid.width row
        ((List.range' row n).map fun row => (List.range grid.width).map (grid.textAt row)) =
      ⟨(List.range grid.width).map (f.spanUp triggers grid row),
        (List.range' row n).map fun row =>
          (List.range grid.width).filterMap (f.placementAt? triggers grid row), refused⟩ := by
  induction n generalizing row with
  | zero =>
    have hend : grid.length - row = 0 := by omega
    have hcounts : (List.range grid.width).map (f.spanUp triggers grid row) =
        List.replicate grid.width 1 := by
      simp [List.eq_replicate_iff, spanUp, hend, lineCount]
    exact ⟨[], by simp [walkRows, hcounts]⟩
  | succ n ih =>
    rcases ih (show row + 1 + n = grid.length by omega) with ⟨below, hbelow⟩
    rcases walkCells_eq f triggers (show row < grid.length by omega)
      (Nat.zero_add grid.width) with ⟨refused, hcells⟩
    rw [← List.range_eq_range'] at hcells
    refine ⟨below ++ refused, ?_⟩
    simp only [List.range'_succ, List.map_cons, walkRows, hbelow, hcells]

variable (grid)

/-- The walk writes the cells of each row from left to right. -/
theorem walk_written :
    (f.walk triggers grid).written = (List.range grid.length).map fun row =>
      (List.range grid.width).filterMap (f.placementAt? triggers grid row) := by
  rcases walkRows_eq f triggers (Nat.zero_add grid.length) with
    ⟨refused, hwalk⟩
  rw [← List.range_eq_range'] at hwalk
  rw [walk, Grid.padded_eq_map_range, hwalk]

variable {f triggers grid} {b : Placement}

theorem placementAt?_eq_some (h : f.placementAt? triggers grid row column = some b) :
    (∃ text, b = f.place triggers grid row column text) ∧
      ∀ kind, f.decisionAt triggers grid row column ≠ .merge kind := by
  unfold placementAt? at h
  split at h
  · cases h
  · rename_i kind hdecision
    cases h
    exact ⟨⟨_, rfl⟩, by simp [hdecision]⟩
  · rename_i hdecision
    cases h
    exact ⟨⟨_, rfl⟩, by simp [hdecision]⟩

theorem one_le_spans (h : f.placementAt? triggers grid row column = some b) :
    1 ≤ b.rowspan ∧ 1 ≤ b.colspan := by
  rcases placementAt?_eq_some h with ⟨⟨text, rfl⟩, _⟩
  exact ⟨one_le_lineCount .rowspan _ _ _, one_le_lineCount .colspan _ _ _⟩

/-- Below a cell that is written, as far as it covers its column, cells are merged upwards or in both
directions. -/
theorem merged_below (h : f.placementAt? triggers grid row column = some b) {position : Nat}
    (habove : row < position) (hreach : position < row + b.rowspan) :
    f.decisionAt triggers grid position column = .merge .rowspan ∨
      f.decisionAt triggers grid position column = .merge .span := by
  rcases placementAt?_eq_some h with ⟨⟨text, rfl⟩, _⟩
  have hrowspan : (f.place triggers grid row column text).rowspan =
      f.spanUp triggers grid (row + 1) column := rfl
  have hbeyond : position + 1 < row + 1 + f.spanUp triggers grid (row + 1) column := by omega
  exact merged_of_lineCount (fun row => f.decisionAt triggers grid row column) habove hbeyond

/-- To the right of a cell that is written, as far as it covers its row, cells are merged to the left
or in both directions. -/
theorem merged_beside (h : f.placementAt? triggers grid row column = some b) {position : Nat}
    (hbefore : column < position) (hreach : position < column + b.colspan) :
    f.decisionAt triggers grid row position = .merge .colspan ∨
      f.decisionAt triggers grid row position = .merge .span := by
  rcases placementAt?_eq_some h with ⟨⟨text, rfl⟩, _⟩
  have hcolspan : (f.place triggers grid row column text).colspan =
      f.spanLeft triggers grid row (column + 1) := rfl
  have hbeyond : position + 1 < column + 1 + f.spanLeft triggers grid row (column + 1) := by omega
  exact merged_of_lineCount (f.decisionAt triggers grid row) hbefore hbeyond

end Frame
end SheetMarkup
