import SheetMarkup.Layout.Walk

/-!
# Tilings — a grid cut into rectangles

A merged table is a grid cut into rectangles, each of which is one written cell. The rectangles are
written down with triggers: the text stands in the corner at the top left, and every other position
asks to be merged upwards, to the left or both, whichever leads towards that corner.

* `Tiling`: rectangles that cover each position of a grid once
* `Tiling.blockAt?`: the rectangle over a position
* `Tiling.encode`: the grid of texts and triggers
* `Tiling.startingIn`, `inOrder_perm`: the rectangles by the rows they start in
-/

namespace SheetMarkup

def Placement.Covers (b : Placement) (row column : Nat) : Prop :=
  (b.row ≤ row ∧ row < b.row + b.rowspan) ∧ b.column ≤ column ∧ column < b.column + b.colspan

instance (b : Placement) (row column : Nat) : Decidable (b.Covers row column) :=
  inferInstanceAs (Decidable ((b.row ≤ row ∧ row < b.row + b.rowspan) ∧
    b.column ≤ column ∧ column < b.column + b.colspan))

/-- Rectangles side by side or one above the other have no position in common. -/
theorem Placement.not_covers_of_apart {b c : Placement}
    (h : (b.row + b.rowspan ≤ c.row ∨ c.row + c.rowspan ≤ b.row) ∨
      b.column + b.colspan ≤ c.column ∨ c.column + c.colspan ≤ b.column) (row column : Nat)
    (hb : b.Covers row column) : ¬ c.Covers row column := by
  rcases hb with ⟨⟨htop, hbottom⟩, hleft, hright⟩
  rintro ⟨⟨htop', hbottom'⟩, hleft', hright'⟩
  omega

/-- What a position of the rectangle asks for, its corner nothing. -/
def Placement.spanKind? (b : Placement) (row column : Nat) : Option SpanKind :=
  if row = b.row then
    if column = b.column then none else some .colspan
  else if column = b.column then some .rowspan
  else some .span

/-- Rectangles that cover each position of a grid once. -/
structure Tiling (rows columns : Nat) where
  blocks : List Placement
  rowspan_pos : ∀ b ∈ blocks, 0 < b.rowspan
  colspan_pos : ∀ b ∈ blocks, 0 < b.colspan
  within : ∀ b ∈ blocks, b.row + b.rowspan ≤ rows ∧ b.column + b.colspan ≤ columns
  disjoint : blocks.Pairwise fun b c => ∀ row column, b.Covers row column → ¬ c.Covers row column
  covering : ∀ row < rows, ∀ column < columns, ∃ b ∈ blocks, b.Covers row column

namespace Tiling

variable {rows columns : Nat}

def blockAt? (t : Tiling rows columns) (row column : Nat) : Option Placement :=
  t.blocks.find? fun b => b.Covers row column

/-- The text at a position: that of its rectangle in the corner, a trigger elsewhere. -/
def textAt (t : Tiling rows columns) (triggers : SpanTriggers) (row column : Nat) : String :=
  match t.blockAt? row column with
  | none => ""
  | some b =>
    match b.spanKind? row column with
    | none => b.text
    | some kind => triggers.keyword kind

def encode (t : Tiling rows columns) (triggers : SpanTriggers) : Grid :=
  (List.range rows).map fun row => (List.range columns).map fun column => t.textAt triggers row column

def startingAt? (t : Tiling rows columns) (row column : Nat) : Option Placement :=
  match t.blockAt? row column with
  | none => none
  | some b => if row = b.row ∧ column = b.column then some b else none

def startingIn (t : Tiling rows columns) (row : Nat) : List Placement :=
  (List.range columns).filterMap (t.startingAt? row)

def inOrder (t : Tiling rows columns) : List Placement :=
  (List.range rows).flatMap t.startingIn

variable {t : Tiling rows columns} {b c : Placement} {row column : Nat}

/-! ## Rectangles over positions -/

/-- No position is in two rectangles. -/
theorem eq_of_covers (hb : b ∈ t.blocks) (hc : c ∈ t.blocks) (hbcovers : b.Covers row column)
    (hccovers : c.Covers row column) : b = c := by
  have hdisjoint := t.disjoint
  generalize t.blocks = blocks at hb hc hdisjoint
  induction blocks with
  | nil => cases hb
  | cons first rest ih =>
    rcases List.pairwise_cons.1 hdisjoint with ⟨hfirst, hrest⟩
    rcases List.mem_cons.1 hb with rfl | hb'
    · rcases List.mem_cons.1 hc with rfl | hc'
      · rfl
      · exact absurd hccovers (hfirst c hc' row column hbcovers)
    · rcases List.mem_cons.1 hc with rfl | hc'
      · exact absurd hbcovers (hfirst b hb' row column hccovers)
      · exact ih hb' hc' hrest

/-- A rectangle has a position at its top left. -/
theorem covers_corner (hb : b ∈ t.blocks) : b.Covers b.row b.column := by
  have hheight := t.rowspan_pos b hb
  have hwidth := t.colspan_pos b hb
  exact ⟨⟨Nat.le_refl _, by omega⟩, Nat.le_refl _, by omega⟩

theorem blockAt?_eq_some_iff :
    t.blockAt? row column = some b ↔ b ∈ t.blocks ∧ b.Covers row column := by
  constructor
  · intro h
    exact ⟨List.mem_of_find?_eq_some h, by simpa using List.find?_some h⟩
  · rintro ⟨hb, hcovers⟩
    cases hfound : t.blockAt? row column with
    | none =>
      have hnone := List.find?_eq_none.1 hfound b hb
      exact absurd (decide_eq_true hcovers) hnone
    | some c =>
      have hc : c ∈ t.blocks := List.mem_of_find?_eq_some hfound
      have hccovers : c.Covers row column := by simpa using List.find?_some hfound
      rw [eq_of_covers hc hb hccovers hcovers]

theorem exists_blockAt? (t : Tiling rows columns) (hrow : row < rows) (hcolumn : column < columns) :
    ∃ b, t.blockAt? row column = some b := by
  rcases t.covering row hrow column hcolumn with ⟨b, hb, hcovers⟩
  exact ⟨b, blockAt?_eq_some_iff.2 ⟨hb, hcovers⟩⟩

/-- Nothing is over a position outside the grid. -/
theorem lt_of_blockAt? (h : t.blockAt? row column = some b) : row < rows ∧ column < columns := by
  rcases blockAt?_eq_some_iff.1 h with ⟨hb, ⟨_, hrow⟩, _, hcolumn⟩
  rcases t.within b hb with ⟨hrows, hcolumns⟩
  exact ⟨Nat.lt_of_lt_of_le hrow hrows, Nat.lt_of_lt_of_le hcolumn hcolumns⟩

/-- Below a position its rectangle goes on, or it ends and another one begins. -/
theorem blockAt?_below (h : t.blockAt? row column = some b) :
    t.blockAt? (row + 1) column = some b ∨
      (b.row + b.rowspan = row + 1 ∧ ∀ c, t.blockAt? (row + 1) column = some c → row < c.row) := by
  rcases blockAt?_eq_some_iff.1 h with ⟨hb, ⟨htop, hbottom⟩, hcolumns⟩
  by_cases hcovers : b.Covers (row + 1) column
  · exact Or.inl (blockAt?_eq_some_iff.2 ⟨hb, hcovers⟩)
  · right
    have hlast : ¬ row + 1 < b.row + b.rowspan := fun hlt => hcovers ⟨⟨by omega, hlt⟩, hcolumns⟩
    refine ⟨by omega, ?_⟩
    intro c hbelow
    rcases blockAt?_eq_some_iff.1 hbelow with ⟨hc, ⟨hctop, hcbottom⟩, hccolumns⟩
    rcases Nat.lt_or_ge row c.row with hlt | hle
    · exact hlt
    · -- A rectangle that began further up would cover this position too.
      have hsame : b = c :=
        eq_of_covers hb hc ⟨⟨htop, hbottom⟩, hcolumns⟩ ⟨⟨hle, by omega⟩, hccolumns⟩
      subst hsame
      exact absurd ⟨⟨hctop, hcbottom⟩, hccolumns⟩ hcovers

/-- To the right of a position its rectangle goes on, or it ends and another one begins. -/
theorem blockAt?_right (h : t.blockAt? row column = some b) :
    t.blockAt? row (column + 1) = some b ∨ (b.column + b.colspan = column + 1 ∧
      ∀ c, t.blockAt? row (column + 1) = some c → column < c.column) := by
  rcases blockAt?_eq_some_iff.1 h with ⟨hb, hrows, hleft, hright⟩
  by_cases hcovers : b.Covers row (column + 1)
  · exact Or.inl (blockAt?_eq_some_iff.2 ⟨hb, hcovers⟩)
  · right
    have hlast : ¬ column + 1 < b.column + b.colspan := fun hlt => hcovers ⟨hrows, by omega, hlt⟩
    refine ⟨by omega, ?_⟩
    intro c hnext
    rcases blockAt?_eq_some_iff.1 hnext with ⟨hc, hcrows, hcleft, hcright⟩
    rcases Nat.lt_or_ge column c.column with hlt | hle
    · exact hlt
    · have hsame : b = c := eq_of_covers hb hc ⟨hrows, hleft, hright⟩ ⟨hcrows, hle, by omega⟩
      subst hsame
      exact absurd ⟨hcrows, hcleft, hcright⟩ hcovers

/-! ## Rectangles in order -/

theorem startingAt?_eq_some_iff :
    t.startingAt? row column = some b ↔ b ∈ t.blocks ∧ b.row = row ∧ b.column = column := by
  unfold startingAt?
  constructor
  · intro h
    split at h
    · cases h
    · rename_i c hc
      split at h
      · rename_i hcorner
        cases h
        exact ⟨(blockAt?_eq_some_iff.1 hc).1, hcorner.1.symm, hcorner.2.symm⟩
      · cases h
  · rintro ⟨hb, rfl, rfl⟩
    simp [blockAt?_eq_some_iff.2 ⟨hb, covers_corner hb⟩]

theorem mem_startingIn : b ∈ t.startingIn row ↔ b ∈ t.blocks ∧ b.row = row := by
  simp only [startingIn, List.mem_filterMap, List.mem_range, startingAt?_eq_some_iff]
  constructor
  · rintro ⟨column, _, hb, hrow, _⟩
    exact ⟨hb, hrow⟩
  · rintro ⟨hb, hrow⟩
    have hwithin := (t.within b hb).2
    have hwidth := t.colspan_pos b hb
    exact ⟨b.column, by omega, hb, hrow, rfl⟩

theorem mem_inOrder : b ∈ t.inOrder ↔ b ∈ t.blocks := by
  simp only [inOrder, List.mem_flatMap, List.mem_range, mem_startingIn]
  constructor
  · rintro ⟨row, _, hb, _⟩
    exact hb
  · intro hb
    have hwithin := (t.within b hb).1
    have hheight := t.rowspan_pos b hb
    exact ⟨b.row, by omega, hb, rfl⟩

theorem nodup_blocks (t : Tiling rows columns) : t.blocks.Nodup := by
  refine List.Pairwise.imp_of_mem ?_ t.disjoint
  rintro b c hb hc hdisjoint rfl
  exact hdisjoint b.row b.column (covers_corner hb) (covers_corner hb)

theorem nodup_inOrder (t : Tiling rows columns) : t.inOrder.Nodup := by
  -- Within a row rectangles differ in their columns, and otherwise in their rows.
  refine List.pairwise_flatMap.2 ⟨?_, ?_⟩
  · intro row _
    refine List.pairwise_filterMap.2 ?_
    refine List.Pairwise.imp ?_ List.nodup_range
    rintro column column' hne b hb c hc rfl
    exact hne ((startingAt?_eq_some_iff.1 hb).2.2.symm.trans (startingAt?_eq_some_iff.1 hc).2.2)
  · refine List.Pairwise.imp ?_ List.nodup_range
    rintro row row' hne b hb c hc rfl
    exact hne ((mem_startingIn.1 hb).2.symm.trans (mem_startingIn.1 hc).2)

/-- Row by row each rectangle is listed once. -/
theorem inOrder_perm (t : Tiling rows columns) : t.inOrder.Perm t.blocks :=
  (List.perm_ext_iff_of_nodup t.nodup_inOrder t.nodup_blocks).2 fun _ => mem_inOrder

end Tiling
end SheetMarkup
