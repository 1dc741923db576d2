import SheetMarkup.Proofs.Formula.Settling

/-!
# Sweeps — what a table ends with

A sweep resolves cells one after another and keeps those whose chains were cut off. Sweeps over what
was kept are repeated until one of them keeps everything. Before that last sweep the grounded cells
are filled in, for the references of the first one that was not would have been filled in, and it
would have been settled; and so are the looped cells. What is kept in the end is neither.

* `Grid.HasFormulaAt`: the cells that are still formulas
* `sweep_sound`, `sweepAgain_sound`: one sweep, and sweeps until nothing is settled any more
* `Resolver.Ends`, `evaluateTable_ends`: what a cell ends with, and that a whole table ends so
* `Resolver.cutOffCells`: the cells that are cut off in the end
-/

namespace SheetMarkup

def Grid.HasFormulaAt (grid : Grid) (p : Nat × Nat) : Prop :=
  ∃ text formula, grid.cell? p.1 p.2 = some text ∧ formula? text = some formula

theorem Grid.Keeps.hasFormulaAt {grid next : Grid} {p : Nat × Nat} (h : grid.Keeps next)
    (hshape : next.shape = grid.shape) (hformula : next.HasFormulaAt p) : grid.HasFormulaAt p := by
  rcases hformula with ⟨text, formula, htext, hformula⟩
  rcases Grid.exists_cell?_of_shape_eq hshape htext with ⟨found, hfound⟩
  cases hplain : formula? found with
  | none =>
    rw [h p found hfound hplain] at htext
    cases htext
    rw [hplain] at hformula
    cases hformula
  | some formula => exact ⟨found, formula, hfound, hplain⟩

namespace Resolver

variable {r : Resolver} {sheet grid : Grid} {p q : Nat × Nat}

/-- A cell that resolution from it was cut off for, in a grid underway that keeps another one. -/
def CutOffAfter (r : Resolver) (sheet grid : Grid) (p : Nat × Nat) : Prop :=
  ∃ mid content, r.Underway sheet mid ∧ grid.Keeps mid ∧ mid.cell? p.1 p.2 = some content ∧
    IsCutOff (r.resolve [] content mid).outcome

theorem CutOffAfter.of_keeps {next : Grid} (h : r.CutOffAfter sheet next p)
    (hkeeps : grid.Keeps next) : r.CutOffAfter sheet grid p := by
  rcases h with ⟨mid, content, hmid, hkept, hcontent, hcut⟩
  exact ⟨mid, content, hmid, hkeeps.trans hkept, hcontent, hcut⟩

/-! ## One sweep -/

/-- One cell is written with a final text, or its chain was cut off. -/
theorem settle_sound (hyields : r.YieldsText) (hbasic : sheet.HasBasicReferences)
    (hgrid : r.Underway sheet grid) (p : Nat × Nat) :
    r.Underway sheet (r.settle p.1 p.2 grid).2 ∧ grid.Keeps (r.settle p.1 p.2 grid).2 ∧
      ((r.settle p.1 p.2 grid).1 = true → ¬ (r.settle p.1 p.2 grid).2.HasFormulaAt p) ∧
      ((r.settle p.1 p.2 grid).1 = false → r.CutOffAfter sheet grid p) := by
  unfold settle
  cases hcontent : grid.cell? p.1 p.2 with
  | none =>
    refine ⟨hgrid, Grid.Keeps.refl grid, fun _ => ?_, by simp⟩
    rintro ⟨text, formula, htext, _⟩
    rw [hcontent] at htext
    cases htext
  | some content =>
    have hsound := resolve_sound hyields hbasic (Trail.start p) (Nat.zero_le _) hgrid hcontent
    -- A chain that was cut off leaves the cell to a later sweep.
    have hafter : IsCutOff (r.resolve [] content grid).outcome → r.CutOffAfter sheet grid p :=
      fun hcut => ⟨grid, content, hgrid, Grid.Keeps.refl grid, hcontent, hcut⟩
    simp only
    generalize r.resolve [] content grid = result at hsound hafter
    split
    · exact ⟨hsound.underway, hsound.keeps, by simp, fun _ => hafter ⟨_, rfl⟩⟩
    · rename_i outcome next hne
      have hcut : ¬ IsCutOff outcome := by
        rintro ⟨depth, rfl⟩
        exact hne depth rfl
      have hset := hsound.underway.set (hsound.final hcut)
      refine ⟨hset.1, hsound.keeps.trans hset.2, fun _ => ?_, by simp⟩
      rintro ⟨text, formula, htext, hformula⟩
      rcases hsound.underway.inside_iff.2 (hgrid.inside_iff.1 ⟨content, hcontent⟩) with ⟨old, hold⟩
      rw [Grid.cell?_set_self _ hold] at htext
      cases htext
      rw [(hsound.final hcut).formula?_eq_none hyields] at hformula
      cases hformula

/-- A sweep keeps some of its cells, in order. -/
theorem sweep_sublist (r : Resolver) (positions : List (Nat × Nat)) (grid : Grid) :
    (r.sweep positions grid).1.Sublist positions := by
  induction positions generalizing grid with
  | nil => exact List.Sublist.refl _
  | cons first rest ih =>
    simp only [sweep]
    split
    · exact (ih _).trans (List.sublist_cons_self first rest)
    · exact (ih _).cons_cons first

/-- The cells of a sweep that are not kept are no formulas any more, and the others were cut off. -/
theorem sweep_sound (hyields : r.YieldsText) (hbasic : sheet.HasBasicReferences)
    (positions : List (Nat × Nat)) (hgrid : r.Underway sheet grid) :
    r.Underway sheet (r.sweep positions grid).2 ∧ grid.Keeps (r.sweep positions grid).2 ∧
      (r.sweep positions grid).1.Sublist positions ∧
      (∀ p ∈ positions, (r.sweep positions grid).2.HasFormulaAt p →
        p ∈ (r.sweep positions grid).1) ∧
      ∀ p ∈ (r.sweep positions grid).1, r.CutOffAfter sheet grid p := by
  induction positions generalizing grid with
  | nil => exact ⟨hgrid, Grid.Keeps.refl grid, List.Sublist.refl _, by simp [sweep], by simp [sweep]⟩
  | cons first rest ih =>
    -- The visit of the first cell starts the sweep of the rest, and what that keeps is kept from here on too.
    rcases settle_sound hyields hbasic hgrid first with ⟨hnext, hkeeps, hdone, hkept⟩
    rcases ih hnext with ⟨hlast, hkeeps', _, hformula, hcut⟩
    have hsublist := r.sweep_sublist (first :: rest) grid
    simp only [sweep] at hsublist ⊢
    generalize r.settle first.1 first.2 grid = settled at *
    rcases settled with ⟨done, next⟩
    refine ⟨hlast, hkeeps.trans hkeeps', hsublist, ?_, ?_⟩
    · intro p hp hat
      cases done with
      | true =>
        rcases List.mem_cons.1 hp with rfl | hp
        · exact absurd (hkeeps'.hasFormulaAt (hlast.shape.trans hnext.shape.symm) hat) (hdone rfl)
        · exact hformula p hp hat
      | false =>
        rcases List.mem_cons.1 hp with rfl | hp
        · exact List.mem_cons_self
        · exact List.mem_cons_of_mem first (hformula p hp hat)
    · intro p hp
      cases done with
      | true => exact (hcut p hp).of_keeps hkeeps
      | false =>
        rcases List.mem_cons.1 hp with rfl | hp
        · exact hkept rfl
        · exact (hcut p hp).of_keeps hkeeps

/-! ## Sweeps until nothing is settled -/

/-- When sweeps end there is a grid, the one before the last sweep, all of whose formulas were cut
off in that sweep. -/
structure Exhausted (r : Resolver) (sheet : Grid) (kept : List (Nat × Nat)) (base next : Grid) :
    Prop where
  base_underway : r.Underway sheet base
  underway : r.Underway sheet next
  keeps : base.Keeps next
  formulas : ∀ p, base.HasFormulaAt p → p ∈ kept
  cutOff : ∀ p ∈ kept, r.CutOffAfter sheet base p

theorem sweepAgain_sound (hyields : r.YieldsText) (hbasic : sheet.HasBasicReferences)
    {rounds : Nat} {positions : List (Nat × Nat)} (hgrid : r.Underway sheet grid)
    (hrounds : positions.length ≤ rounds) (hformulas : ∀ p, grid.HasFormulaAt p → p ∈ positions) :
    ∃ base, r.Exhausted sheet (r.sweepAgain rounds positions grid).1 base
      (r.sweepAgain rounds positions grid).2 := by
  induction rounds generalizing positions grid with
  | zero =>
    have hnil : positions = [] := List.eq_nil_of_length_eq_zero (by omega)
    subst hnil
    exact ⟨grid, hgrid, hgrid, Grid.Keeps.refl grid, hformulas, by simp [sweepAgain]⟩
  | succ rounds ih =>
    rcases sweep_sound hyields hbasic positions hgrid with
      ⟨hnext, hkeeps, hsublist, hformula, hcut⟩
    simp only [sweepAgain]
    generalize r.sweep positions grid = swept at *
    rcases swept with ⟨kept, next⟩
    by_cases hlength : kept.length = positions.length
    · -- This sweep settled nothing, so it is the last one.
      have hall : kept = positions := hsublist.eq_of_length hlength
      simp only [hlength, if_true]
      exact ⟨grid, hgrid, hnext, hkeeps, fun p hp => hall ▸ hformulas p hp, hcut⟩
    · simp only [hlength, if_false]
      -- Otherwise it kept fewer cells, and there are rounds left for them.
      have hshorter := hsublist.length_le
      refine ih hnext (by simp only at hshorter hlength; omega) fun p hp => ?_
      have hbefore := hkeeps.hasFormulaAt (hnext.shape.trans hgrid.shape.symm) hp
      exact hformula p (hformulas p hbefore) hp

section Exhausted

variable {base next : Grid} {kept : List (Nat × Nat)}

/-- A cell is filled in before the last sweep if no grid from there on would cut it off. -/
theorem Exhausted.shows {value : String} (h : r.Exhausted sheet kept base next)
    (hfinal : r.Final sheet p value)
    (hsettled : ∀ mid content, r.Underway sheet mid → base.Keeps mid →
      mid.cell? p.1 p.2 = some content → ¬ IsCutOff (r.resolve [] content mid).outcome) :
    base.cell? p.1 p.2 = some value := by
  rcases h.base_underway.inside_iff.2 hfinal.inside with ⟨text, htext⟩
  cases hformula : formula? text with
  | none => rw [htext, (h.base_underway.final htext hformula).unique hfinal]
  | some formula =>
    -- If it were still a formula it would have been cut off in the last sweep.
    rcases h.cutOff p (h.formulas p ⟨text, formula, htext, hformula⟩) with
      ⟨mid, content, hmid, hkeeps, hcontent, hcut⟩
    exact absurd hcut (hsettled mid content hmid hkeeps hcontent)

/-- Before the last sweep the grounded cells are filled in. -/
theorem Exhausted.showsGrounded (hyields : r.YieldsText) (hdepth : 1 ≤ r.maxDepth)
    (h : r.Exhausted sheet kept base next) : r.ShowsGrounded sheet base := by
  intro p value hgrounded
  have hfinal : r.Final sheet p value := Or.inl hgrounded
  induction hgrounded with
  | text hsheet hplain =>
    refine h.shows hfinal fun mid content hmid hkeeps hcontent => ?_
    rcases hmid.cells _ content hcontent with hsame | hfinal'
    · rw [hsheet] at hsame
      cases hsame
      exact not_isCutOff_of_text r [] mid hplain
    · exact not_isCutOff_of_text r [] mid (hfinal'.formula?_eq_none hyields)
  | formula shown hsheet hformula hshape hgrounded ih =>
    refine h.shows hfinal fun mid content hmid hkeeps hcontent => ?_
    refine resolve_not_cutOff_of_filled hyields hmid hcontent hdepth hsheet hformula hshape ?_
    -- What counts for the formula is filled in before, so its values are there in the sweep.
    intro reference hreference q value hposition hvalue
    have hq := hgrounded reference hreference q value hposition hvalue
    have hplain := hq.formula?_eq_none hyields
    have hbase := ih reference hreference q value hposition hvalue (Or.inl hq)
    exact ⟨hkeeps q value hbase hplain, hplain⟩

/-- Before the last sweep the looped cells are filled in. -/
theorem Exhausted.shows_looped (hyields : r.YieldsText) (hbasic : sheet.HasBasicReferences)
    (hdepth : 1 ≤ r.maxDepth) (h : r.Exhausted sheet kept base next)
    (hlooped : r.Looped sheet p) : base.cell? p.1 p.2 = some circularText := by
  have hshows := h.showsGrounded hyields hdepth
  have hmid_shows : ∀ mid, base.Keeps mid → r.ShowsGrounded sheet mid :=
    fun mid hkeeps s value hvalue =>
      hkeeps s value (hshows s value hvalue) (hvalue.formula?_eq_none hyields)
  rcases hlooped with ⟨n, c, hleads, hloop⟩
  -- From the cell on the cycle back along the cells that lead to it.
  induction hleads with
  | refl c =>
    refine h.shows (Or.inr ⟨hloop.looped, rfl⟩) fun mid content hmid hkeeps hcontent => ?_
    exact resolve_not_cutOff_of_onLoop hyields hbasic hloop hmid (hmid_shows mid hkeeps) hcontent
  | step hawaits hleads ih =>
    rename_i n p q c before reference
    have hlooped := Looped.intro hleads hloop
    have hfinal : r.Final sheet p circularText := Or.inr ⟨hlooped.of_awaits hawaits, rfl⟩
    refine h.shows hfinal fun mid content hmid hkeeps hcontent => ?_
    have hcircular := hkeeps q circularText (ih hloop) formula?_circularText
    refine hawaits.resolve_not_cutOff hyields hbasic hlooped (Trail.start p) hdepth hmid
      (hmid_shows mid hkeeps) hcontent fun content hcontent => ?_
    rw [hcircular] at hcontent
    cases hcontent
    exact not_isCutOff_of_text r _ mid formula?_circularText

/-- What is kept in the end is neither grounded nor looped. -/
theorem Exhausted.not_final (hyields : r.YieldsText) (hbasic : sheet.HasBasicReferences)
    (hdepth : 1 ≤ r.maxDepth) (h : r.Exhausted sheet kept base next) (hp : p ∈ kept)
    (text : String) : ¬ r.Final sheet p text := by
  intro hfinal
  have hbase : base.cell? p.1 p.2 = some text := by
    rcases hfinal with hgrounded | ⟨hlooped, rfl⟩
    · exact h.showsGrounded hyields hdepth p text hgrounded
    · exact h.shows_looped hyields hbasic hdepth hlooped
  have hplain := hfinal.formula?_eq_none hyields
  rcases h.cutOff p hp with ⟨mid, content, hmid, hkeeps, hcontent, hcut⟩
  rw [hkeeps p text hbase hplain] at hcontent
  cases hcontent
  exact not_isCutOff_of_text r [] mid hplain hcut

end Exhausted

/-! ## The whole table -/

def cutOffText (r : Resolver) : String :=
  (FormulaError.recursionLimit r.maxDepth).marker

inductive Ends (r : Resolver) (sheet : Grid) (p : Nat × Nat) : String → Prop where
  | final {text : String} : r.Final sheet p text → Ends r sheet p text
  | cutOff : sheet.HasFormulaAt p → (∀ text, ¬ r.Final sheet p text) →
      Ends r sheet p r.cutOffText

theorem foldl_set_spec (positions : List (Nat × Nat)) (text : String) (grid : Grid) :
    (positions.foldl (fun grid (row, column) => grid.set row column text) grid).shape =
        grid.shape ∧
      ∀ p found, (positions.foldl (fun grid (row, column) => grid.set row column text)
          grid).cell? p.1 p.2 = some found →
        (p ∈ positions ∧ found = text) ∨ (p ∉ positions ∧ grid.cell? p.1 p.2 = some found) := by
  induction positions generalizing grid with
  | nil => exact ⟨rfl, fun p found hfound => Or.inr ⟨by simp, hfound⟩⟩
  | cons first rest ih =>
    rcases ih (grid.set first.1 first.2 text) with ⟨hshape, hcells⟩
    refine ⟨hshape.trans (Grid.shape_set grid first.1 first.2 text), fun p found hfound => ?_⟩
    rcases hcells p found hfound with ⟨hmem, heq⟩ | ⟨hnot, hfound⟩
    · exact Or.inl ⟨List.mem_cons_of_mem first hmem, heq⟩
    · rcases Grid.cell?_set hfound with ⟨heq, rfl⟩ | hold
      · exact Or.inl ⟨(show first = p from heq) ▸ List.mem_cons_self, rfl⟩
      · by_cases heq : first = p
        · subst heq
          rw [Grid.cell?_set_self text hold] at hfound
          exact Or.inl ⟨List.mem_cons_self, (Option.some.inj hfound).symm⟩
        · exact Or.inr ⟨by simp [hnot, Ne.symm heq], hold⟩

/-- The cells that are kept after the last sweep over a table. -/
def cutOffCells (r : Resolver) (sheet : Grid) : List (Nat × Nat) :=
  let (kept, grid) := r.sweep sheet.positions sheet
  (r.sweepAgain kept.length kept grid).1

/-- Sweeps over a table end with nothing settled any more; then the cells that are kept are written. -/
theorem exists_exhausted (hyields : r.YieldsText) (hbasic : sheet.HasBasicReferences) :
    ∃ base next, r.Exhausted sheet (r.cutOffCells sheet) base next ∧
      r.evaluateTable sheet = (r.cutOffCells sheet).foldl
        (fun grid (row, column) => grid.set row column r.cutOffText) next := by
  rcases sweep_sound hyields hbasic sheet.positions (Underway.refl r sheet) with
    ⟨hfirst, hkeeps, _, hformula, _⟩
  have hformulas : ∀ p, (r.sweep sheet.positions sheet).2.HasFormulaAt p →
      p ∈ (r.sweep sheet.positions sheet).1 := by
    intro p hp
    rcases hkeeps.hasFormulaAt hfirst.shape hp with ⟨text, _, htext, _⟩
    exact hformula p (Grid.mem_positions_iff.2 ⟨text, htext⟩) hp
  rcases sweepAgain_sound hyields hbasic hfirst (Nat.le_refl _) hformulas with ⟨base, hexhausted⟩
  exact ⟨base, _, hexhausted, rfl⟩

/-- A cell that is kept in the end has no final text. -/
theorem Final.not_mem_cutOffCells {text : String} (hyields : r.YieldsText)
    (hbasic : sheet.HasBasicReferences) (hdepth : 1 ≤ r.maxDepth) (h : r.Final sheet p text) :
    p ∉ r.cutOffCells sheet := by
  intro hmem
  rcases exists_exhausted hyields hbasic with ⟨base, next, hexhausted, _⟩
  exact hexhausted.not_final hyields hbasic hdepth hmem text h

/-- A table keeps its shape, and every cell ends with the text it ends with by the sheet alone. -/
theorem evaluateTable_ends (hyields : r.YieldsText) (hbasic : sheet.HasBasicReferences)
    (hdepth : 1 ≤ r.maxDepth) :
    (r.evaluateTable sheet).shape = sheet.shape ∧
      ∀ p text, (r.evaluateTable sheet).cell? p.1 p.2 = some text → r.Ends sheet p text := by
  rcases exists_exhausted hyields hbasic with ⟨base, next, hexhausted, htable⟩
  rw [htable]
  rcases foldl_set_spec (r.cutOffCells sheet) r.cutOffText next with ⟨hshape, hcells⟩
  refine ⟨hshape.trans hexhausted.underway.shape, fun p text htext => ?_⟩
  have hsame : next.shape = base.shape :=
    hexhausted.underway.shape.trans hexhausted.base_underway.shape.symm
  rcases hcells p text htext with ⟨hmem, rfl⟩ | ⟨hnot, hnext⟩
  · -- What is kept in the end was a formula of the sheet.
    refine Ends.cutOff ?_ (hexhausted.not_final hyields hbasic hdepth hmem)
    rcases hexhausted.cutOff p hmem with ⟨mid, content, hmid, _, hcontent, hcut⟩
    cases hformula : formula? content with
    | none => exact absurd hcut (not_isCutOff_of_text r [] mid hformula)
    | some formula =>
      exact ⟨content, formula, hmid.cell_of_formula hyields hcontent hformula, hformula⟩
  · cases hformula : formula? text with
    | none => exact Ends.final (hexhausted.underway.final hnext hformula)
    | some formula =>
      -- A formula that is left was there before the last sweep, so it was kept.
      have hat := hexhausted.keeps.hasFormulaAt hsame ⟨text, formula, hnext, hformula⟩
      exact absurd (hexhausted.formulas p hat) hnot

end Resolver
end SheetMarkup
