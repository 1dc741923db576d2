import SheetMarkup.Proofs.Formula.Reading
import SheetMarkup.Proofs.Layout.Refusals
import SheetMarkup.Render.Renderer

/-!
# Warnings — what a render complains about

The warnings of a render come from three places. Formulas are looked up in the grid that is shown and in
the one that they have been resolved in, triggers in the grid that is laid out, and that there is no cell
at all is seen last. A grid without cells has neither formulas nor triggers.

* `Renderer.resolved`, `Renderer.engine`: what the stages work with
* `Renderer.Flawed`: the three things that can be wrong
* `render_warnings`: the warnings in their order
* `exists_warning_iff`: there is a warning if something is wrong, and only then
-/

namespace SheetMarkup

/-! ## Formulas -/

theorem Grid.positions_eq_nil {grid : Grid} (h : grid.isVoid = true) : grid.positions = [] := by
  rw [List.eq_nil_iff_forall_not_mem]
  rintro ⟨row, column⟩ hmem
  rcases Grid.mem_positions_iff.1 hmem with ⟨text, htext⟩
  rw [Grid.isVoid_eq_false_of_cell? htext] at h
  cases h

theorem mem_formulaCells_iff {grid : Grid} {row column : Nat} :
    (row, column) ∈ formulaCells grid ↔
      ∃ text formula, grid.cell? row column = some text ∧ formula? text = some formula := by
  simp only [formulaCells, List.mem_filter, Grid.mem_positions_iff]
  cases grid.cell? row column with
  | none => simp
  | some text =>
    unfold formula?
    rcases htext : text.toList with _ | ⟨first, rest⟩
    · simp [htext]
    · by_cases hfirst : first = '='
      · simp [htext, hfirst]
      · simp [htext, hfirst]

theorem exists_formulaWarning?_iff {grid : Grid} {row column : Nat} :
    (∃ w, formulaWarning? grid (row, column) = some w) ↔
      ∃ text, grid.cell? row column = some text ∧ isMarker text = true := by
  unfold formulaWarning?
  cases grid.cell? row column with
  | none => simp
  | some text => cases hmarker : isMarker text <;> simp [hmarker]

/-- There is a warning about a formula if one is resolved to an error marker. -/
theorem exists_mem_formulaWarnings_iff {grid resolved : Grid} :
    (∃ w, w ∈ (formulaCells grid).filterMap (formulaWarning? resolved)) ↔
      ∃ row column text formula shown, grid.cell? row column = some text ∧
        formula? text = some formula ∧ resolved.cell? row column = some shown ∧
          isMarker shown = true := by
  simp only [List.mem_filterMap, Prod.exists, mem_formulaCells_iff]
  constructor
  · rintro ⟨w, row, column, ⟨text, formula, htext, hformula⟩, hwarning⟩
    rcases exists_formulaWarning?_iff.1 ⟨w, hwarning⟩ with ⟨shown, hshown, hmarker⟩
    exact ⟨row, column, text, formula, shown, htext, hformula, hshown, hmarker⟩
  · rintro ⟨row, column, text, formula, shown, htext, hformula, hshown, hmarker⟩
    rcases exists_formulaWarning?_iff.2 ⟨shown, hshown, hmarker⟩ with ⟨w, hwarning⟩
    exact ⟨w, row, column, ⟨text, formula, htext, hformula⟩, hwarning⟩

namespace Renderer

/-! ## The stages -/

def resolved (r : Renderer) : Grid :=
  Resolver.evaluateTable ⟨r.evaluate, r.maxDepth⟩ r.shownTable.data

def engine (r : Renderer) : LayoutEngine :=
  LayoutEngine.start r.shownTable.id (r.options.resolve r.site) r.hooks

inductive Flawed (r : Renderer) : Prop where
  /-- There is no cell left to be laid out. -/
  | void : r.data.isVoid = true → Flawed r
  /-- A shown formula is resolved to an error marker. -/
  | formula {row column : Nat} {text shown : String} {formula : List Char} :
    r.shownTable.data.cell? row column = some text → formula? text = some formula →
      r.resolved.cell? row column = some shown → isMarker shown = true → Flawed r
  /-- A trigger in the grid that is laid out has no cell to merge into. -/
  | trigger {row column : Nat} {text : String} {kind : SpanKind} :
    r.data.cell? row column = some text → r.engine.triggers.classify text = some kind →
      ¬ (r.engine.frame r.data).HasTarget row column kind → Flawed r

variable (r : Renderer)

/-- What is prepared, whether there are cells or not. -/
theorem prepare_eq :
    r.prepare =
      { table := { r.shownTable with data := r.data }
        settings := r.options.resolve r.site
        warnings := (formulaCells r.shownTable.data).filterMap (formulaWarning? r.resolved) } := by
  unfold data prepare
  by_cases hvoid : r.shownTable.isVoid = true
  · -- Without cells no formula is resolved, and none would have been found.
    have hnone : r.shownTable.data.positions = [] := Grid.positions_eq_nil hvoid
    simp [hvoid, formulaCells, hnone]
  · simp [hvoid, resolved]

/-- The warnings about formulas come first. A table without cells is not laid out, so it has one further
warning instead of those about triggers. -/
theorem render_warnings :
    r.render.warnings =
      (formulaCells r.shownTable.data).filterMap (formulaWarning? r.resolved) ++
        if r.data.isVoid then [emptyWarning r.shownTable.id]
        else ((r.engine.frame r.data).walk r.engine.triggers r.data).refused.map r.engine.warning := by
  unfold render
  simp only [prepare_eq, Table.isVoid]
  by_cases hvoid : r.data.isVoid = true
  · simp only [hvoid, if_true]
  · simp only [hvoid]
    rfl

/-- A render has a warning if and only if something is wrong with its table. -/
theorem exists_warning_iff : r.render.warnings.isEmpty = false ↔ r.Flawed := by
  rw [List.isEmpty_eq_false_iff_exists_mem, render_warnings]
  simp only [List.mem_append, exists_or, exists_mem_formulaWarnings_iff]
  constructor
  · rintro (⟨row, column, text, formula, shown, htext, hformula, hshown, hmarker⟩ | ⟨w, hw⟩)
    · exact .formula htext hformula hshown hmarker
    · by_cases hvoid : r.data.isVoid = true
      · exact .void hvoid
      · simp only [hvoid, Bool.false_eq_true, if_false, List.mem_map] at hw
        rcases hw with ⟨refusal, hrefusal, _⟩
        rcases (Frame.mem_refused_iff rfl).1 hrefusal with ⟨text, htext, hkind, htarget⟩
        exact .trigger htext hkind htarget
  · intro hflawed
    cases hflawed with
    | void hvoid => exact Or.inr ⟨emptyWarning r.shownTable.id, by simp [hvoid]⟩
    | formula htext hformula hshown hmarker =>
      exact Or.inl ⟨_, _, _, _, _, htext, hformula, hshown, hmarker⟩
    | @trigger row column text kind htext hkind htarget =>
      -- Where a trigger stands there is a cell, so the table is laid out.
      have hvoid : r.data.isVoid = false := Grid.isVoid_eq_false_of_cell? htext
      have hrefusal : ⟨row, column, kind⟩ ∈
          ((r.engine.frame r.data).walk r.engine.triggers r.data).refused :=
        (Frame.mem_refused_iff rfl).2 ⟨text, htext, hkind, htarget⟩
      refine Or.inr ⟨r.engine.warning ⟨row, column, kind⟩, ?_⟩
      simp only [hvoid, Bool.false_eq_true, if_false]
      exact List.mem_map_of_mem hrefusal

end Renderer
end SheetMarkup
