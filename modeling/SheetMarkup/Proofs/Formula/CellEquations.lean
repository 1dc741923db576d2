import SheetMarkup.Proofs.Expression.Result
import SheetMarkup.Proofs.Formula.Expansion
import SheetMarkup.Proofs.Formula.Sweep

/-!
# Cell equations — an evaluated table explains itself

When a table has been evaluated, the text in the place of every formula is the result of one
evaluation of that formula against the evaluated table: no order of evaluation, no chain and no
ceiling is needed to say what a cell holds. That is true of the cells on a cycle and of those that
are cut off as well, for their formulas consult a cell that shows the same error.

* `grounded_or_exists_awaits`: a formula has its value, or waits for a cell that has none
* `Ends.eq_cellText_evaluateOnce`: the equation of one cell
* `evaluateTable_cellEquations`: the equations of a table
-/

namespace SheetMarkup
namespace Resolver

variable {r : Resolver} {sheet grid : Grid} {p q : Nat × Nat}

/-! ## Waiting -/

/-- The first reference among those consulted whose cell is not grounded. -/
theorem exists_first_not_grounded (hshows : r.ShowsGrounded sheet grid) (references : List Corner) :
    (∀ reference ∈ grid.consulted references, ∀ q text, reference.position? = some q →
      grid.cell? q.1 q.2 = some text → r.Grounded sheet q text) ∨
    ∃ before reference after q text, references = before ++ reference :: after ∧
      (∀ b ∈ before, ∃ s value, b.position? = some s ∧ r.Grounded sheet s value ∧
        shownValue value = .ok value) ∧
      reference.position? = some q ∧ grid.cell? q.1 q.2 = some text ∧
      ∀ value, ¬ r.Grounded sheet q value := by
  induction references with
  | nil =>
    left
    intro reference hreference
    cases hreference
  | cons reference rest ih =>
    -- The first reference is the one, or it is grounded and those behind it are searched.
    by_cases hhead : ∃ q text, reference.position? = some q ∧ grid.cell? q.1 q.2 = some text ∧
        ∀ value, ¬ r.Grounded sheet q value
    · rcases hhead with ⟨q, text, hposition, htext, hnot⟩
      exact Or.inr ⟨[], reference, rest, q, text, rfl, by simp, hposition, htext, hnot⟩
    · have hgrounded : ∀ q text, reference.position? = some q → grid.cell? q.1 q.2 = some text →
          r.Grounded sheet q text := by
        intro q text hposition htext
        by_cases hvalue : ∃ value, r.Grounded sheet q value
        · rcases hvalue with ⟨value, hvalue⟩
          have hshown := hshows q value hvalue
          rw [htext] at hshown
          cases hshown
          exact hvalue
        · exact absurd ⟨q, text, hposition, htext, fun value hq => hvalue ⟨value, hq⟩⟩ hhead
      cases hread : grid.read reference with
      | error error =>
        -- Nothing behind a reference that stands for no value is consulted.
        left
        intro next hnext q text hposition htext
        rcases mem_takeThrough_cons.1 hnext with rfl | ⟨hok, _⟩
        · exact hgrounded q text hposition htext
        · simp [hread, Except.isOk, Except.toBool] at hok
      | ok value =>
        rcases Grid.cell_of_read_eq_ok hread with ⟨s, hs, hcell, hshown⟩
        rcases ih with hall | ⟨before, next, after, q, text, hrest, hbefore, hnext⟩
        · left
          intro next hnext q text hposition htext
          rcases mem_takeThrough_cons.1 hnext with rfl | ⟨_, hnext⟩
          · exact hgrounded q text hposition htext
          · exact hall next hnext q text hposition htext
        · right
          refine ⟨reference :: before, next, after, q, text, by simp [hrest], ?_, hnext⟩
          intro b hb
          rcases List.mem_cons.1 hb with rfl | hb
          · exact ⟨s, value, hs, hgrounded s value hs hcell, hshown⟩
          · exact hbefore b hb

/-- A formula has the value of its evaluation against a grid, or waits for a cell without a value. -/
theorem grounded_or_exists_awaits {text : String} {formula : List Char}
    (hshape : grid.shape = sheet.shape) (hshows : r.ShowsGrounded sheet grid)
    (htext : sheet.cell? p.1 p.2 = some text) (hformula : formula? text = some formula) :
    r.Grounded sheet p (cellText (r.evaluateOnce grid formula)) ∨
      ∃ before reference q, r.Awaits sheet p before reference q ∧
        ∀ value, ¬ r.Grounded sheet q value := by
  rcases exists_first_not_grounded hshows (grid.referencesIn formula) with
    hall | ⟨before, reference, after, q, found, hlisted, hbefore, hposition, hfound, hnot⟩
  · exact Or.inl (Grounded.formula grid htext hformula hshape hall)
  · right
    refine ⟨before, reference, q, ⟨⟨after, ?_⟩, hbefore, hposition, ?_⟩, hnot⟩
    · rw [Grid.referencesAt_of_formula htext hformula, ← Grid.referencesIn_congr hshape, hlisted]
    · exact Grid.exists_cell?_of_shape_eq hshape hfound

/-! ## One evaluation -/

theorem readInto_append_of_error {before after : List Corner} {reference : Corner}
    {error : FormulaError} (hbefore : ∀ b ∈ before, ∃ value, grid.read b = .ok value)
    (hread : grid.read reference = .error error) (expression : List Char) :
    grid.readInto (before ++ reference :: after) expression = .error error := by
  induction before generalizing expression with
  | nil => simp [Grid.readInto, hread]
  | cons b before ih =>
    rcases hbefore b List.mem_cons_self with ⟨value, hvalue⟩
    simp only [List.cons_append, Grid.readInto, hvalue]
    exact ih (fun c hc => hbefore c (List.mem_cons_of_mem b hc)) _

/-- The first error that a reference stands for is the error of the formula. -/
theorem evaluateOnce_eq_error_of_read {before after : List Corner} {reference : Corner}
    {formula : List Char} {error : FormulaError}
    (hlisted : grid.referencesIn formula = before ++ reference :: after)
    (hbefore : ∀ b ∈ before, ∃ value, grid.read b = .ok value)
    (hread : grid.read reference = .error error) : r.evaluateOnce grid formula = .error error := by
  unfold Grid.referencesIn at hlisted
  unfold evaluateOnce
  cases hprepare : prepare grid formula with
  | error refusal => simp [hprepare] at hlisted
  | ok expression =>
    simp only [hprepare] at hlisted
    simp only [hlisted, readInto_append_of_error hbefore hread]

/-- A formula that waits for a cell with an error has that error. -/
theorem Awaits.evaluateOnce_eq_error {before : List Corner} {reference : Corner} {text found : String}
    {formula : List Char} {error : FormulaError} (h : r.Awaits sheet p before reference q)
    (hshape : grid.shape = sheet.shape) (hshows : r.ShowsGrounded sheet grid)
    (htext : sheet.cell? p.1 p.2 = some text) (hformula : formula? text = some formula)
    (hfound : grid.cell? q.1 q.2 = some found) (herror : shownValue found = .error error) :
    r.evaluateOnce grid formula = .error error := by
  rcases h.listed with ⟨after, hlisted⟩
  rw [Grid.referencesAt_of_formula htext hformula, ← Grid.referencesIn_congr hshape] at hlisted
  have hread : grid.read reference = .error error := by
    rw [Grid.read_of_cell h.names hfound, herror]
  have hbefore : ∀ b ∈ before, ∃ value, grid.read b = .ok value := by
    intro b hb
    rcases h.before_shown b hb with ⟨s, value, hposition, hvalue, hshown⟩
    exact ⟨value, by rw [Grid.read_of_cell hposition (hshows s value hvalue), hshown]⟩
  exact evaluateOnce_eq_error_of_read hlisted hbefore hread

/-! ## The equations -/

theorem toList_reason_recursionLimit (depth : Nat) :
    ∃ cs, (FormulaError.recursionLimit depth).reason.toList = "Cell r".toList ++ cs := by
  have hreason : (FormulaError.recursionLimit depth).reason =
      "Cell references are nested deeper than " ++ toString depth ++ " levels" := rfl
  have hstart : "Cell references are nested deeper than ".toList =
      "Cell r".toList ++ "eferences are nested deeper than ".toList := rfl
  rw [hreason, String.toList_append, String.toList_append, hstart, List.append_assoc,
    List.append_assoc]
  exact ⟨_, rfl⟩

theorem shownValue_cutOffText (r : Resolver) :
    ∃ error, shownValue r.cutOffText = .error error ∧ error.marker = r.cutOffText := by
  rcases toList_reason_recursionLimit r.maxDepth with ⟨cs, hreason⟩
  have hblank : Text.isBlank 'C' = false := by decide
  exact ⟨_, shownValue_marker (.recursionLimit r.maxDepth), marker_propagated hreason hblank⟩

/-- A grid of what cells end with shows the values of the grounded ones. -/
theorem Ends.showsGrounded (hshape : grid.shape = sheet.shape)
    (hends : ∀ p text, grid.cell? p.1 p.2 = some text → r.Ends sheet p text) :
    r.ShowsGrounded sheet grid := by
  intro s value hvalue
  rcases hvalue.inside with ⟨found, hfound⟩
  rcases Grid.exists_cell?_of_shape_eq hshape.symm hfound with ⟨shown, hshown⟩
  cases hends s shown hshown with
  | final hfinal => rw [hshown, hfinal.unique (Or.inl hvalue)]
  | cutOff _ hnot => exact absurd (Or.inl hvalue) (hnot value)

/-- What a formula ends with is the result of its evaluation against a grid of what cells end with. -/
theorem Ends.eq_cellText_evaluateOnce {text value : String} {formula : List Char}
    (hshape : grid.shape = sheet.shape)
    (hends : ∀ p text, grid.cell? p.1 p.2 = some text → r.Ends sheet p text)
    (htext : sheet.cell? p.1 p.2 = some text) (hformula : formula? text = some formula)
    (hp : r.Ends sheet p value) : value = cellText (r.evaluateOnce grid formula) := by
  have hshows := Ends.showsGrounded hshape hends
  have hinside : ∀ {before reference q}, r.Awaits sheet p before reference q →
      ∃ found, grid.cell? q.1 q.2 = some found := by
    intro before reference q hawaits
    rcases hawaits.inside with ⟨found, hfound⟩
    exact Grid.exists_cell?_of_shape_eq hshape.symm hfound
  cases hp with
  | final hfinal =>
    rcases grounded_or_exists_awaits hshape hshows htext hformula with hgrounded | hawaits
    · exact hfinal.unique (Or.inl hgrounded)
    · -- A grounded formula waits for grounded cells only, a looped one for some looped cell.
      rcases hfinal with hvalue | ⟨hlooped, rfl⟩
      · rcases hawaits with ⟨before, reference, q, hawaits, hnot⟩
        rcases hvalue.exists_awaited hawaits with ⟨found, hfound⟩
        exact absurd hfound (hnot found)
      · rcases hlooped.exists_awaits with ⟨before, reference, q, hawaits, hq⟩
        rcases hinside hawaits with ⟨found, hfound⟩
        have hcircular : found = circularText := by
          cases hends q found hfound with
          | final hfinal => exact hfinal.unique (Or.inr ⟨hq, rfl⟩)
          | cutOff _ hnot => exact absurd (Or.inr ⟨hq, rfl⟩) (hnot circularText)
        subst hcircular
        rcases shownValue_circularText with ⟨error, hshown, hmarker⟩
        calc
          circularText = cellText (.error error) := hmarker.symm
          _ = cellText (r.evaluateOnce grid formula) := by
            rw [hawaits.evaluateOnce_eq_error hshape hshows htext hformula hfound hshown]
  | cutOff _ hnot =>
    rcases grounded_or_exists_awaits hshape hshows htext hformula with
      hgrounded | ⟨before, reference, q, hawaits, hq⟩
    · exact absurd (Or.inl hgrounded) (hnot _)
    · rcases hinside hawaits with ⟨found, hfound⟩
      -- The awaited cell is not grounded, and if it were looped the formula would be so too.
      have hcut : found = r.cutOffText := by
        cases hends q found hfound with
        | final hfinal =>
          rcases hfinal with hvalue | ⟨hlooped, _⟩
          · exact absurd hvalue (hq found)
          · exact absurd (Or.inr ⟨hlooped.of_awaits hawaits, rfl⟩) (hnot circularText)
        | cutOff _ _ => rfl
      subst hcut
      rcases shownValue_cutOffText r with ⟨error, hshown, hmarker⟩
      calc
        r.cutOffText = cellText (.error error) := hmarker.symm
        _ = cellText (r.evaluateOnce grid formula) := by
          rw [hawaits.evaluateOnce_eq_error hshape hshows htext hformula hfound hshown]

/-- Cell equations. An evaluated table has the shape of the sheet, keeps every text that is no formula
and holds no formula any more; in the place of each formula stands the result of one evaluation of it
against the evaluated table. -/
theorem evaluateTable_cellEquations (r : Resolver) (sheet : Grid) (hyields : r.YieldsText)
    (hwritten : sheet.WrittenInBasicLetters) (hdepth : 1 ≤ r.maxDepth) :
    (r.evaluateTable sheet).shape = sheet.shape ∧
      (∀ row column text, sheet.cell? row column = some text → formula? text = none →
        (r.evaluateTable sheet).cell? row column = some text) ∧
      (∀ row column text, (r.evaluateTable sheet).cell? row column = some text →
        formula? text = none) ∧
      ∀ row column text formula, sheet.cell? row column = some text →
        formula? text = some formula →
        (r.evaluateTable sheet).cell? row column =
          some (cellText (r.evaluateOnce (r.evaluateTable sheet) formula)) := by
  rcases evaluateTable_ends hyields (.of_written hwritten) hdepth with ⟨hshape, hends⟩
  refine ⟨hshape, ?_, ?_, ?_⟩
  · intro row column text htext hplain
    rcases Grid.exists_cell?_of_shape_eq hshape.symm htext with ⟨found, hfound⟩
    cases hends (row, column) found hfound with
    | final hfinal => rw [hfound, hfinal.unique (Or.inl (Grounded.text htext hplain))]
    | cutOff _ hnot => exact absurd (Or.inl (Grounded.text htext hplain)) (hnot text)
  · intro row column text htext
    cases hends (row, column) text htext with
    | final hfinal => exact hfinal.formula?_eq_none hyields
    | cutOff _ _ => exact formula?_marker _
  · intro row column text formula htext hformula
    rcases Grid.exists_cell?_of_shape_eq hshape.symm htext with ⟨found, hfound⟩
    have hequation := Ends.eq_cellText_evaluateOnce (p := (row, column)) hshape hends htext hformula
      (hends (row, column) found hfound)
    rw [hfound, hequation]

/-- With a ceiling of one reference the cycle of two cells is not found, and yet each of them holds
what its formula gives. -/
theorem evaluateTable_cellEquations_of_cutOff :
    ((Resolver.mk arithmetic 1).evaluateTable [["=[B1]", "=[a1]"]]).cell? 0 1 =
        some "!ERROR! Cell references are nested deeper than 1 levels" ∧
      ((Resolver.mk arithmetic 1).evaluateTable [["=[B1]", "=[a1]"]]).cell? 0 1 =
        some (cellText ((Resolver.mk arithmetic 1).evaluateOnce
          ((Resolver.mk arithmetic 1).evaluateTable [["=[B1]", "=[a1]"]]) "[a1]".toList)) :=
  ⟨by decide +kernel, (evaluateTable_cellEquations (Resolver.mk arithmetic 1) [["=[B1]", "=[a1]"]]
    (arithmetic_yieldsText 1) (by decide +kernel) (by decide +kernel)).2.2.2 0 1 "=[a1]"
    "[a1]".toList rfl rfl⟩

end Resolver
end SheetMarkup
