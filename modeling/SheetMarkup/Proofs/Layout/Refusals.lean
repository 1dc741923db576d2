import SheetMarkup.Proofs.Layout.Counters

/-!
# Refusals — triggers without a cell to merge into

Whether a trigger is refused depends on its text and its position, and on nothing that the walk counts. A
merge upwards needs a row above in the same section, and a merge to the left a column before that is no
column of headers. The triggers for which these are missing are told by the walk in its own order.

* `Frame.HasTarget`: there is a cell that a trigger can be merged into
* `allows_iff_hasTarget`: these are the merges that a frame allows
* `walk_refused`: what the walk refuses, from the bottom right to the top left
* `mem_refused_iff`: which triggers these are
-/

namespace SheetMarkup
namespace Frame

/-! ## Targets -/

/-- There is a row above, and it belongs to the same section. -/
def HasRowAbove (f : Frame) (row : Nat) : Prop :=
  0 < row ∧ f.part (row - 1) = f.part row

/-- There is a column before, and it is no column of headers. -/
def HasColumnBefore (f : Frame) (column : Nat) : Prop :=
  0 < column ∧ (f.headColumn = true → 1 < column)

def HasTarget (f : Frame) (row column : Nat) : SpanKind → Prop
  | .rowspan => f.HasRowAbove row
  | .colspan => f.HasColumnBefore column
  | .span => f.HasRowAbove row ∧ f.HasColumnBefore column

instance (f : Frame) (row : Nat) : Decidable (f.HasRowAbove row) :=
  inferInstanceAs (Decidable (_ ∧ _))

instance (f : Frame) (column : Nat) : Decidable (f.HasColumnBefore column) :=
  inferInstanceAs (Decidable (_ ∧ _))

instance (f : Frame) (row column : Nat) : (kind : SpanKind) → Decidable (f.HasTarget row column kind)
  | .rowspan => inferInstanceAs (Decidable (f.HasRowAbove row))
  | .colspan => inferInstanceAs (Decidable (f.HasColumnBefore column))
  | .span => inferInstanceAs (Decidable (f.HasRowAbove row ∧ f.HasColumnBefore column))

variable {f : Frame} {triggers : SpanTriggers} {grid : Grid} {row column : Nat} {kind : SpanKind}

/-- A row with another one below it belongs to the header or to the body. -/
theorem part_above (hbelow : row + 1 < f.rows) :
    f.part row = if f.head && row == 0 then .header else .body := by
  have hlast : row + 1 ≠ f.rows := Nat.ne_of_lt hbelow
  simp [part, hlast]

/-- A row with another one above it belongs to the footer or to the body. -/
theorem part_below (f : Frame) (row : Nat) :
    f.part (row + 1) = if f.foot && row + 1 + 1 == f.rows then .footer else .body := by
  simp [part]

theorem mayMergeUp_iff (hrow : row < f.rows) : f.mayMergeUp row = true ↔ f.HasRowAbove row := by
  cases row with
  | zero => simp [mayMergeUp, HasRowAbove]
  | succ above =>
    rw [HasRowAbove, Nat.add_sub_cancel, part_above hrow, part_below]
    -- The two rows are parted by the end of the header or by the start of the footer.
    have hmay : f.mayMergeUp (above + 1) =
        (!(f.head && above == 0) && !(f.foot && above + 1 + 1 == f.rows)) := by
      simp [mayMergeUp]
    rw [hmay]
    cases (f.head && above == 0) <;> cases (f.foot && above + 1 + 1 == f.rows) <;> simp

theorem mayMergeLeft_iff : f.mayMergeLeft column = true ↔ f.HasColumnBefore column := by
  unfold mayMergeLeft HasColumnBefore
  cases f.headColumn with
  | false => simp [Nat.pos_iff_ne_zero]
  | true =>
    simp only [Bool.true_and, Bool.and_eq_true, bne_iff_ne, ne_eq, Bool.not_eq_true',
      beq_eq_false_iff_ne, forall_const]
    omega

theorem allows_iff_hasTarget (hrow : row < f.rows) :
    f.allows row column kind = true ↔ f.HasTarget row column kind := by
  cases kind with
  | rowspan => exact mayMergeUp_iff hrow
  | colspan => exact mayMergeLeft_iff
  | span =>
    simp only [allows, HasTarget, Bool.and_eq_true, mayMergeUp_iff hrow, mayMergeLeft_iff]

/-! ## The walk -/

variable (f triggers grid) in
def refusalAt? (row column : Nat) : Option Refusal :=
  match f.decisionAt triggers grid row column with
  | .refuse kind => some ⟨row, column, kind⟩
  | _ => none

variable (f triggers grid)

/-- The counters that a row is walked with have no influence on what is refused in it. -/
theorem walkCells_refused (row column n : Nat) (counts : List Nat) :
    (f.walkCells triggers row column ((List.range' column n).map (grid.textAt row)) counts).refused =
      (List.range' column n).reverse.filterMap (f.refusalAt? triggers grid row) := by
  induction n generalizing column counts with
  | zero => rfl
  | succ n ih =>
    have hright := ih (column + 1) counts.tail
    have hdecision : f.decide triggers row column (grid.textAt row column) =
        f.decisionAt triggers grid row column := rfl
    simp only [List.range'_succ, List.map_cons, List.reverse_cons, List.filterMap_append,
      List.filterMap_cons, List.filterMap_nil, walkCells, hdecision, refusalAt?]
    cases f.decisionAt triggers grid row column with
    | merge kind => cases kind <;> simp [hright]
    | refuse kind => simp [hright]
    | write => simp [hright, RowWalk.write]

theorem walkRows_refused (row n : Nat) :
    (f.walkRows triggers grid.width row
        ((List.range' row n).map fun row => (List.range grid.width).map (grid.textAt row))).refused =
      (List.range' row n).reverse.flatMap fun row =>
        (List.range grid.width).reverse.filterMap (f.refusalAt? triggers grid row) := by
  induction n generalizing row with
  | zero => rfl
  | succ n ih =>
    have hbelow := ih (row + 1)
    simp only [List.range'_succ, List.map_cons, List.reverse_cons, List.flatMap_append,
      List.flatMap_singleton, walkRows, hbelow]
    rw [List.range_eq_range', walkCells_refused]

/-- The walk refuses triggers from the bottom right to the top left. -/
theorem walk_refused :
    (f.walk triggers grid).refused = (List.range grid.length).reverse.flatMap fun row =>
      (List.range grid.width).reverse.filterMap (f.refusalAt? triggers grid row) := by
  rw [walk, Grid.padded_eq_map_range, List.range_eq_range' (n := grid.length), walkRows_refused]

variable {f triggers grid}

theorem refusalAt?_eq_some_iff {r : Refusal} :
    f.refusalAt? triggers grid row column = some r ↔
      (r.row = row ∧ r.column = column) ∧
        triggers.classify (grid.textAt row column) = some r.kind ∧ f.allows row column r.kind = false := by
  rcases r with ⟨row', column', asked⟩
  unfold refusalAt? decisionAt decide
  cases hclassify : triggers.classify (grid.textAt row column) with
  | none => simp
  | some kind =>
    by_cases hallows : f.allows row column kind = true
    · simp only [hallows, if_true, reduceCtorEq, false_iff]
      rintro ⟨_, hkind, hrefused⟩
      cases hkind
      simp [hallows] at hrefused
    · simp only [hallows, Bool.false_eq_true, if_false, Option.some.injEq, Refusal.mk.injEq]
      constructor
      · rintro ⟨rfl, rfl, rfl⟩
        exact ⟨⟨rfl, rfl⟩, rfl, Bool.not_eq_true _ ▸ hallows⟩
      · rintro ⟨⟨rfl, rfl⟩, hkind, _⟩
        exact ⟨rfl, rfl, hkind⟩

theorem classify_textAt_iff :
    triggers.classify (grid.textAt row column) = some kind ↔
      ∃ text, grid.cell? row column = some text ∧ triggers.classify text = some kind := by
  unfold Grid.textAt
  cases grid.cell? row column with
  | none => simp [SpanTriggers.classify]
  | some text => simp

/-- The triggers refused are those that have no cell to merge into. -/
theorem mem_refused_iff (hrows : f.rows = grid.length) {r : Refusal} :
    r ∈ (f.walk triggers grid).refused ↔
      ∃ text, grid.cell? r.row r.column = some text ∧ triggers.classify text = some r.kind ∧
        ¬ f.HasTarget r.row r.column r.kind := by
  simp only [walk_refused, List.mem_flatMap, List.mem_filterMap, List.mem_reverse, List.mem_range,
    refusalAt?_eq_some_iff]
  constructor
  · rintro ⟨row, hrow, column, _, ⟨hrow', hcolumn'⟩, hclassify, hallows⟩
    subst hrow' hcolumn'
    rcases classify_textAt_iff.1 hclassify with ⟨text, htext, hkind⟩
    refine ⟨text, htext, hkind, fun htarget => ?_⟩
    rw [(allows_iff_hasTarget (hrows ▸ hrow)).2 htarget] at hallows
    cases hallows
  · rintro ⟨text, htext, hkind, htarget⟩
    rcases Grid.lt_of_cell? htext with ⟨hrow, hcolumn⟩
    have hallows : f.allows r.row r.column r.kind = false :=
      Bool.eq_false_iff.2 fun h => htarget ((allows_iff_hasTarget (hrows ▸ hrow)).1 h)
    exact ⟨r.row, hrow, r.column, hcolumn, ⟨rfl, rfl⟩,
      classify_textAt_iff.2 ⟨text, htext, hkind⟩, hallows⟩

end Frame
end SheetMarkup
