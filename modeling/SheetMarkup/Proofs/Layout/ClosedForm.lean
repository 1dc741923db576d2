import Mathlib.Algebra.Order.Interval.Finset.SuccPred
import Mathlib.Data.Nat.SuccPred
import Mathlib.Order.Interval.Finset.Nat
import SheetMarkup.Proofs.Layout.Emitted

/-!
# Closed form — the spans of a cell without counters

How far a cell reaches can be said without walking through the grid. Below a cell its column is followed
down to the first row whose cell is written or merged to the left; of the cells passed those that are
merged upwards lengthen it, and those merged in both directions are passed over. A row is followed to the
right in the same way, with the two directions exchanged.

* `FirstBehind`: the first position behind another one with a property, or the end of the line
* `exists_firstBehind_lineCount`: a counter as the number of merges that were passed
* `placementAt?_closedForm`, `layout_spans_closedForm`: one cell, and all cells of a layout
-/

namespace SheetMarkup

/-! ## Lines -/

/-- The first position of a line behind a start that has a property, or the length of the line. -/
structure FirstBehind (has : Nat → Prop) (start length first : Nat) : Prop where
  behind : start < first
  within : first ≤ length
  not_between : ∀ i, start < i → i < first → ¬ has i
  has_first : first < length → has first

theorem FirstBehind.congr {has has' : Nat → Prop} {start length first : Nat}
    (h : FirstBehind has start length first) (hiff : ∀ i, has i ↔ has' i) :
    FirstBehind has' start length first where
  behind := h.behind
  within := h.within
  not_between i hafter hbefore hhas := h.not_between i hafter hbefore ((hiff i).2 hhas)
  has_first hlt := (hiff first).1 (h.has_first hlt)

/-- A counter of merges of one kind goes on over merges of that kind and over those in both
directions. -/
def Decision.SetsBack (own : SpanKind) (d : Decision) : Prop :=
  d ≠ .merge own ∧ d ≠ .merge .span

theorem FirstBehind.next {has : Nat → Prop} {start length : Nat} (hlt : start < length)
    (h : start + 1 < length → has (start + 1)) : FirstBehind has start length (start + 1) where
  behind := Nat.lt_succ_self start
  within := hlt
  not_between i hafter hbefore := absurd hbefore (by omega)
  has_first := h

theorem Ioo_succ_self (start : Nat) : Finset.Ioo start (start + 1) = ∅ := by
  rw [Finset.Ioo_add_one_right_eq_Ioc, Finset.Ioc_self]

theorem Ioo_eq_insert {start stop : Nat} (h : start + 1 < stop) :
    Finset.Ioo start stop = insert (start + 1) (Finset.Ioo (start + 1) stop) := by
  rw [← Finset.Ico_add_one_left_eq_Ioo, ← Finset.insert_Ico_add_one_left_eq_Ico h,
    Finset.Ico_add_one_left_eq_Ioo]

/-- Behind a position a counter has grown by the merges of its kind up to the first decision that sets
it back. -/
theorem exists_firstBehind_lineCount {own : SpanKind} (hown : own ≠ .span) (line : Nat → Decision)
    {length left start : Nat} (hlength : start + 1 + left = length) :
    ∃ first, FirstBehind (fun i => (line i).SetsBack own) start length first ∧
      lineCount own line left (start + 1) =
        1 + ((Finset.Ioo start first).filter fun i => line i = .merge own).card := by
  induction left generalizing start with
  | zero =>
    refine ⟨start + 1, FirstBehind.next (by omega) fun _ => by omega, ?_⟩
    rw [Ioo_succ_self]
    rfl
  | succ left ih =>
    rcases ih (show start + 1 + 1 + left = length by omega) with ⟨first, hfirst, hcount⟩
    have hbehind := hfirst.behind
    -- Where the next cell does not set the counter back, the first one that does stays the same.
    have hpassed : ¬ (line (start + 1)).SetsBack own →
        FirstBehind (fun i => (line i).SetsBack own) start length first := by
      intro hpassed
      refine ⟨by omega, hfirst.within, fun i hafter hbefore => ?_, hfirst.has_first⟩
      rcases Nat.eq_or_lt_of_le (show start + 1 ≤ i from hafter) with rfl | hlater
      · exact hpassed
      · exact hfirst.not_between i hlater hbefore
    rw [lineCount, hcount]
    by_cases hmerge : line (start + 1) = .merge own
    · refine ⟨first, hpassed fun hback => hback.1 hmerge, ?_⟩
      have hnot : start + 1 ∉ (Finset.Ioo (start + 1) first).filter fun i => line i = .merge own := by
        simp
      rw [Ioo_eq_insert hbehind, Finset.filter_insert, if_pos hmerge, Finset.card_insert_of_notMem hnot,
        hmerge, Decision.counted, if_pos rfl]
      omega
    · by_cases hspan : line (start + 1) = .merge .span
      · refine ⟨first, hpassed fun hback => hback.2 hspan, ?_⟩
        rw [Ioo_eq_insert hbehind, Finset.filter_insert, if_neg hmerge, hspan, Decision.counted,
          if_neg (Ne.symm hown), if_pos rfl]
      · refine ⟨start + 1, FirstBehind.next (by omega) fun _ => ⟨hmerge, hspan⟩, ?_⟩
        rw [Ioo_succ_self]
        rcases Decision.counted_cases own
            (1 + ((Finset.Ioo (start + 1) first).filter fun i => line i = .merge own).card)
            (line (start + 1)) with ⟨hown, _⟩ | ⟨hboth, _⟩ | hone
        · exact absurd hown hmerge
        · exact absurd hboth hspan
        · simpa using hone

namespace Frame

/-! ## One cell -/

section Cells

variable (f : Frame) (triggers : SpanTriggers) (grid : Grid)

variable {f triggers grid} {row column : Nat} {b : Placement}

/-- A cell that sets a counter back is written, or is merged in the other direction only. -/
theorem setsBack_iff {own other : SpanKind} (hothers : ∀ kind, kind = own ∨ kind = .span ∨ kind = other)
    (hown : other ≠ own) (hspan : other ≠ .span) :
    (f.decisionAt triggers grid row column).SetsBack own ↔
      f.IsWritten triggers grid row column ∨ f.IsMerged triggers grid other row column := by
  simp only [Decision.SetsBack, IsWritten, ne_eq, ← decisionAt_eq_merge_iff]
  constructor
  · rintro ⟨hnot, hnot'⟩
    by_cases hother : f.decisionAt triggers grid row column = .merge other
    · exact Or.inr hother
    · refine Or.inl fun kind hmerge => ?_
      rcases hothers kind with rfl | rfl | rfl
      · exact hnot hmerge
      · exact hnot' hmerge
      · exact hother hmerge
  · rintro (hwritten | hmerged)
    · exact ⟨hwritten own, hwritten .span⟩
    · rw [hmerged]
      exact ⟨fun h => hown (Decision.merge.inj h), fun h => hspan (Decision.merge.inj h)⟩

/-- The spans of a cell: the merges upwards below it, up to the first cell that is written or merged to
the left, and the merges to the left beside it, up to the first cell that is written or merged
upwards. -/
theorem placementAt?_closedForm (hrow : row < grid.length) (hcolumn : column < grid.width)
    (h : f.placementAt? triggers grid row column = some b) :
    (∃ below, FirstBehind (fun i => f.IsWritten triggers grid i column ∨
          f.IsMerged triggers grid .colspan i column) row grid.length below ∧
        b.rowspan = 1 + ((Finset.Ioo row below).filter fun i =>
          f.IsMerged triggers grid .rowspan i column).card) ∧
      ∃ beside, FirstBehind (fun j => f.IsWritten triggers grid row j ∨
          f.IsMerged triggers grid .rowspan row j) column grid.width beside ∧
        b.colspan = 1 + ((Finset.Ioo column beside).filter fun j =>
          f.IsMerged triggers grid .colspan row j).card := by
  rcases placementAt?_eq_some h with ⟨⟨text, rfl⟩, _⟩
  constructor
  · rcases exists_firstBehind_lineCount (show SpanKind.rowspan ≠ .span by simp)
      (fun i => f.decisionAt triggers grid i column)
      (show row + 1 + (grid.length - (row + 1)) = grid.length by omega) with ⟨below, hfirst, hcount⟩
    simp only [decisionAt_eq_merge_iff] at hcount
    refine ⟨below, hfirst.congr fun i => setsBack_iff ?_ (by simp) (by simp), hcount⟩
    intro kind
    cases kind <;> simp
  · rcases exists_firstBehind_lineCount (show SpanKind.colspan ≠ .span by simp)
      (f.decisionAt triggers grid row)
      (show column + 1 + (grid.width - (column + 1)) = grid.width by omega) with
      ⟨beside, hfirst, hcount⟩
    simp only [decisionAt_eq_merge_iff] at hcount
    refine ⟨beside, hfirst.congr fun j => setsBack_iff ?_ (by simp) (by simp), hcount⟩
    intro kind
    cases kind <;> simp

end Cells

end Frame

namespace LayoutEngine

/-! ## All cells -/

/-- Closed form of the spans. A layout has a cell wherever the grid has none of the triggers whose merge
is allowed. Its rowspan is one more than the number of merges upwards below it, before the first row
whose cell in this column is written or merged to the left; its colspan is one more than the number of
merges to the left beside it, before the first column whose cell in this row is written or merged
upwards. -/
theorem layout_spans_closedForm (e : LayoutEngine) (grid : Grid) :
    let isMerged := (e.frame grid).IsMerged e.triggers grid
    let isWritten := (e.frame grid).IsWritten e.triggers grid
    (∀ row column, (∃ b ∈ e.emitted grid, b.row = row ∧ b.column = column) ↔
        (row < grid.length ∧ column < grid.width) ∧ isWritten row column) ∧
      ∀ b ∈ e.emitted grid,
        (∃ below, FirstBehind (fun i => isWritten i b.column ∨ isMerged .colspan i b.column)
            b.row grid.length below ∧
          b.rowspan = 1 +
            ((Finset.Ioo b.row below).filter fun i => isMerged .rowspan i b.column).card) ∧
        ∃ beside, FirstBehind (fun j => isWritten b.row j ∨ isMerged .rowspan b.row j)
            b.column grid.width beside ∧
          b.colspan = 1 +
            ((Finset.Ioo b.column beside).filter fun j => isMerged .colspan b.row j).card := by
  intro isMerged isWritten
  refine ⟨exists_mem_emitted_iff e grid, ?_⟩
  intro b hb
  rcases placementAt?_of_mem_emitted hb with ⟨⟨hrow, hcolumn⟩, text, hplaced⟩
  exact Frame.placementAt?_closedForm (b := { b with text }) hrow hcolumn hplaced

end LayoutEngine
end SheetMarkup
