import SheetMarkup.Proofs.Formula.Footprint
import SheetMarkup.Proofs.Formula.OrderIndependence

/-!
# A single cell — evaluated in place

A cell that is evaluated in place is written whatever it comes to. On the way cells that it leads to are
written as well, under chains that begin at it. Their texts are final, so they are those that the evaluated
table shows; a chain that was cut off is reported by the cell alone, and leaves the formulas along it as they
were.

* `Final.cell?_evaluateTable`: a final text is what the evaluated table shows
* `Resolver.RightlyWritten`: what may become of the other cells
* `evaluateAt_rightlyWritten`: one cell evaluated in place
-/

namespace SheetMarkup
namespace Resolver

variable {r : Resolver} {sheet : Grid} {p q : Nat × Nat} {text content old new : String}

/-! ## Final texts in tables -/

/-- A cell with a final text shows it in the evaluated table. -/
theorem Final.cell?_evaluateTable (hyields : r.YieldsText) (hbasic : sheet.HasBasicReferences)
    (hdepth : 1 ≤ r.maxDepth) (h : r.Final sheet p text) :
    (r.evaluateTable sheet).cell? p.1 p.2 = some text := by
  rcases evaluateTable_ends hyields hbasic hdepth with ⟨hshape, hends⟩
  rcases h.inside with ⟨content, hcontent⟩
  rcases Grid.exists_cell?_of_shape_eq hshape.symm hcontent with ⟨found, hfound⟩
  rw [hfound]
  cases hends p found hfound with
  | final hfinal => rw [hfinal.unique h]
  | cutOff _ hnot => exact absurd h (hnot text)

theorem circularText_ne_recursionLimit (depth : Nat) :
    circularText ≠ (FormulaError.recursionLimit depth).marker := by
  intro heq
  rcases toList_reason_recursionLimit depth with ⟨cs, hreason⟩
  have hsame : FormulaError.circularReference.reason.toList = "Cell r".toList ++ cs := by
    rw [← hreason]
    simpa [circularText, FormulaError.marker] using congrArg String.toList heq
  cases hsame

/-- Where no error is there from the start, a final text does not report a chain that is too long. -/
theorem Final.ne_recursionLimit (hspeaks : r.SpeaksPlainly) (hmarkers : sheet.HasNoMarkers)
    (h : r.Final sheet p text) (depth : Nat) : text ≠ (FormulaError.recursionLimit depth).marker := by
  rcases h with hgrounded | ⟨_, rfl⟩
  · exact (hgrounded.blameless hspeaks hmarkers).ne_marker (Or.inr ⟨depth, rfl⟩)
  · exact circularText_ne_recursionLimit depth

/-! ## The other cells -/

/-- A cell that was written on the way from another one: it was a formula to which that one leads, and shows
what the evaluated table shows, which is no chain that was cut off. -/
structure RightlyWritten (r : Resolver) (sheet : Grid) (p q : Nat × Nat) (old new : String) : Prop where
  formula : ∃ formula, formula? old = some formula
  reached : Relation.TransGen sheet.Refers p q
  value : (r.evaluateTable sheet).cell? q.1 q.2 = some new
  not_cutOff : q ∉ r.cutOffCells sheet
  ne_recursionLimit : r.SpeaksPlainly → sheet.HasNoMarkers →
    ∀ depth, new ≠ (FormulaError.recursionLimit depth).marker

/-- Resolving a cell writes other cells rightly. -/
theorem resolve_rightlyWritten (hyields : r.YieldsText) (hbasic : sheet.HasBasicReferences)
    (hdepth : 1 ≤ r.maxDepth) (hcontent : sheet.cell? p.1 p.2 = some content)
    (hold : sheet.cell? q.1 q.2 = some old)
    (hnew : (r.resolve [] content sheet).grid.cell? q.1 q.2 = some new) (hchanged : old ≠ new) :
    r.RightlyWritten sheet p q old new := by
  have hsound := resolve_sound hyields hbasic (Trail.start p) (Nat.zero_le _) (Underway.refl r sheet)
    hcontent
  have hfinal : r.Final sheet q new := by
    rcases hsound.underway.cells q new hnew with hsame | hfinal
    · rw [hold] at hsame
      exact absurd (Option.some.inj hsame) hchanged
    · exact hfinal
  refine ⟨?_, ?_, hfinal.cell?_evaluateTable hyields hbasic hdepth,
    hfinal.not_mem_cutOffCells hyields hbasic hdepth, hfinal.ne_recursionLimit⟩
  · cases hformula : formula? old with
    | some formula => exact ⟨formula, rfl⟩
    | none =>
      -- A text that is no formula is kept.
      have hkept := hsound.keeps q old hold hformula
      rw [hnew] at hkept
      exact absurd (Option.some.inj hkept).symm hchanged
  · have hfootprint := resolve_footprint hyields [] (Grid.PartlySolved.refl sheet) hcontent
    rcases hfootprint.within q with hreached | hsame
    · exact hreached
    · rw [hnew, hold] at hsame
      exact absurd (Option.some.inj hsame).symm hchanged

/-- A chain that was cut off has left the formulas of the sheet along it. -/
theorem exists_formulas_of_cutOff (hyields : r.YieldsText)
    (hcontent : sheet.cell? p.1 p.2 = some content)
    (hcut : IsCutOff (r.resolve [] content sheet).outcome) :
    ∃ path : List (Nat × Nat), path.length = r.maxDepth ∧ (p :: path).IsChain sheet.Refers ∧
      ∀ s ∈ path, sheet.HasFormulaAt s ∧
        (r.resolve [] content sheet).grid.cell? s.1 s.2 = sheet.cell? s.1 s.2 := by
  have hsolved := Grid.PartlySolved.refl sheet
  rcases (exists_path_of_cutOff hyields hsolved hcontent hcut).path with
    ⟨path, hchain, hlength, hformulas⟩
  refine ⟨path, hlength, hchain, fun s hs => ?_⟩
  rcases hformulas s (List.mem_cons_of_mem p hs) with ⟨text, formula, htext, hformula⟩
  have hsheet := (resolve_footprint hyields [] hsolved hcontent).solved.formulas s text formula htext
    hformula
  exact ⟨⟨text, formula, hsheet, hformula⟩, htext.trans hsheet.symm⟩

/-- Evaluating one cell in place writes right values only. Outside the grid nothing happens. Inside it the
shape is kept and the cell shows the text that is returned; every other cell that changed was a formula to
which it leads, and shows what evaluating the whole table stores there. Where a chain from the cell was cut
off, the formulas along it are still there, as many as chains may be long. -/
theorem evaluateAt_rightlyWritten (r : Resolver) (sheet : Grid) (p : Nat × Nat)
    (hyields : r.YieldsText) (hwritten : sheet.WrittenInBasicLetters) (hdepth : 1 ≤ r.maxDepth) :
    (sheet.cell? p.1 p.2 = none → r.evaluateAt p.1 p.2 sheet = none ∧ r.visit sheet p = sheet) ∧
    ∀ content, sheet.cell? p.1 p.2 = some content →
      ∃ text next, r.evaluateAt p.1 p.2 sheet = some (text, next) ∧ r.visit sheet p = next ∧
        next.shape = sheet.shape ∧ next.cell? p.1 p.2 = some text ∧
        (∀ (q : Nat × Nat) old new, q ≠ p → sheet.cell? q.1 q.2 = some old →
          next.cell? q.1 q.2 = some new → old ≠ new → r.RightlyWritten sheet p q old new) ∧
        (IsCutOff (r.resolve [] content sheet).outcome →
          ∃ path : List (Nat × Nat), path.length = r.maxDepth ∧ (p :: path).IsChain sheet.Refers ∧
            ∀ s ∈ path, s ≠ p →
              sheet.HasFormulaAt s ∧ next.cell? s.1 s.2 = sheet.cell? s.1 s.2) := by
  refine ⟨fun hnone => ?_, fun content hcontent => ?_⟩
  · have hanswer : r.evaluateAt p.1 p.2 sheet = none := by
      rw [evaluateAt, hnone]
      rfl
    exact ⟨hanswer, by rw [visit, hanswer]⟩
  have hbasic : sheet.HasBasicReferences := .of_written hwritten
  have hshape := (resolve_footprint hyields [] (Grid.PartlySolved.refl sheet) hcontent).solved.shape
  have hanswer : r.evaluateAt p.1 p.2 sheet = some (cellText (r.resolve [] content sheet).outcome,
      (r.resolve [] content sheet).grid.set p.1 p.2
        (cellText (r.resolve [] content sheet).outcome)) := by
    rw [evaluateAt, hcontent]
    rfl
  refine ⟨_, _, hanswer, by rw [visit, hanswer], (Grid.shape_set _ _ _ _).trans hshape, ?_, ?_, ?_⟩
  · rcases Grid.exists_cell?_of_shape_eq hshape.symm hcontent with ⟨found, hfound⟩
    exact Grid.cell?_set_self _ hfound
  · intro q old new hne hold hnew hchanged
    rw [Grid.cell?_set_of_ne _ (Ne.symm hne)] at hnew
    exact resolve_rightlyWritten hyields hbasic hdepth hcontent hold hnew hchanged
  · intro hcut
    rcases exists_formulas_of_cutOff hyields hcontent hcut with ⟨path, hlength, hchain, hformulas⟩
    refine ⟨path, hlength, hchain, fun s hs hne => ?_⟩
    rw [Grid.cell?_set_of_ne _ (Ne.symm hne)]
    exact hformulas s hs

/-- A cell that comes to a value before the chain is cut off that begins with the reference behind it. -/
theorem evaluateAt_rightlyWritten_of_cutOff :
    let sheet : Grid := [["=[F1]+[b1]", "=[C1]", "=[D1]", "=[E1]", "1", "=[E1]*2"]]
    let marker := "!ERROR! Cell references are nested deeper than 2 levels"
    (Resolver.mk arithmetic 2).evaluateAt 0 0 sheet =
        some (marker, [[marker, "=[C1]", "=[D1]", "=[E1]", "1", "2"]]) ∧
      (Resolver.mk arithmetic 2).RightlyWritten sheet (0, 0) (0, 5) "=[E1]*2" "2" := by
  intro sheet marker
  have hanswer : (Resolver.mk arithmetic 2).evaluateAt 0 0 sheet =
      some (marker, [[marker, "=[C1]", "=[D1]", "=[E1]", "1", "2"]]) := by decide +kernel
  rcases (evaluateAt_rightlyWritten (Resolver.mk arithmetic 2) sheet (0, 0)
    (arithmetic_yieldsText 2) (by decide +kernel) (by decide)).2 "=[F1]+[b1]" rfl with
    ⟨text, next, hresult, _, _, _, hothers, _⟩
  cases hanswer.symm.trans hresult
  exact ⟨hanswer, hothers (0, 5) "=[E1]*2" "2" (by decide) rfl rfl (by decide)⟩

end Resolver
end SheetMarkup
