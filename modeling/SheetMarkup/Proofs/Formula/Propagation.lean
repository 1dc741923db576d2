import SheetMarkup.Proofs.Formula.Cycles

/-!
# Propagation — how an error is passed on

A formula stops at the first of its references that stands for no value. If that one names a cell with an error
marker, the marker is read back as an error, and the formula shows a marker of its own for it. Reading back drops
the blanks before the reason, of which a marker always writes one. So the reason has lost all the blanks it
starts with at the first step, and after that the text does not change any more, however far it goes.

* `Grid.StopsAt`: a formula stops at a cell
* `cell?_eq_propagated`: what is shown after one step
* `evaluateTable_passesErrorsOn`: what is shown after any number of steps
* `not_passedOn_of_blank`: a reason that is not passed on as it is
-/

namespace SheetMarkup

/-- The formula in a cell of a sheet stops at another cell: its references name cells that are shown without an
error, up to one which names that cell, where an error marker is shown. -/
def Grid.StopsAt (sheet shown : Grid) (p q : Nat × Nat) : Prop :=
  ∃ text formula before reference after found, sheet.cell? p.1 p.2 = some text ∧
    formula? text = some formula ∧ sheet.referencesIn formula = before ++ reference :: after ∧
    (∀ b ∈ before, ∃ s value, b.position? = some s ∧ shown.cell? s.1 s.2 = some value ∧
      isMarker value = false) ∧
    reference.position? = some q ∧ shown.cell? q.1 q.2 = some found ∧ isMarker found = true

/-- The reason of an error that is passed on starts with no blank. -/
theorem trimStart_reason_of_shownValue {text : String} {error : FormulaError}
    (h : shownValue text = .error error) : Text.trimStart error.reason = error.reason := by
  unfold shownValue at h
  split at h
  · rename_i passed hpassed
    cases h
    exact trimStart_reason_of_ofMarker? hpassed
  · cases h

namespace Resolver

variable {r : Resolver} {sheet grid : Grid} {p q : Nat × Nat}

def YieldsNoMarkers (r : Resolver) : Prop :=
  ∀ expression value, r.evaluate expression = .ok value → isMarker value = false

/-! ## One step -/

/-- The reason of a formula's error starts with no blank, unless it is the evaluator's. -/
theorem trimStart_reason_of_evaluateOnce {formula : List Char} {error : FormulaError}
    (h : r.evaluateOnce grid formula = .error error) :
    Text.trimStart error.reason = error.reason ∨
      ∃ expression failure, r.evaluate expression = .error failure ∧ failure.message = error.reason := by
  rcases evaluateOnce_eq_error h with
    (rfl | rfl) | ⟨reference, _, herror⟩ | ⟨expression, failure, hfailure, rfl⟩
  · left
    decide +kernel
  · left
    decide +kernel
  · left
    unfold Grid.read at herror
    split at herror
    · cases herror
      exact trimStart_reason_nonExistentCell _
    · exact trimStart_reason_of_shownValue herror
  · exact Or.inr ⟨expression, failure, hfailure, rfl⟩

/-- A marker in an evaluated table is that of an error whose reason starts with no blank, unless it is the
evaluator's. -/
theorem exists_error_of_isMarker {text : String} (hplain : r.YieldsNoMarkers)
    (hmarkers : sheet.HasNoMarkers) (hshape : grid.shape = sheet.shape)
    (hends : ∀ p text, grid.cell? p.1 p.2 = some text → r.Ends sheet p text)
    (htext : grid.cell? q.1 q.2 = some text) (h : isMarker text = true) :
    ∃ error : FormulaError, text = error.marker ∧ (Text.trimStart error.reason = error.reason ∨
      ∃ expression failure, r.evaluate expression = .error failure ∧ failure.message = error.reason) := by
  rcases Grid.exists_cell?_of_shape_eq hshape htext with ⟨content, hcontent⟩
  cases hformula : formula? content with
  | none =>
    -- A cell that is no formula keeps its text, which was no marker.
    have hsame := Ends.showsGrounded hshape hends q content (Grounded.text hcontent hformula)
    rw [htext] at hsame
    cases hsame
    rcases Option.bind_eq_some_iff.1 hcontent with ⟨cells, hcells, hcell⟩
    rw [hmarkers cells (List.mem_of_getElem? hcells) _ (List.mem_of_getElem? hcell)] at h
    cases h
  | some formula =>
    have hequation := Ends.eq_cellText_evaluateOnce hshape hends hcontent hformula (hends q text htext)
    cases hresult : r.evaluateOnce grid formula with
    | ok value =>
      rcases evaluateOnce_eq_ok hresult with ⟨_, _, expression, hvalue⟩
      rw [hequation, hresult, cellText, hplain expression value hvalue] at h
      cases h
    | error error =>
      rw [hresult] at hequation
      exact ⟨error, hequation, trimStart_reason_of_evaluateOnce hresult⟩

/-- A formula that stops at a marker shows its reason without the blanks before it. -/
theorem cell?_eq_propagated {error : FormulaError} (h : sheet.StopsAt grid p q)
    (hshape : grid.shape = sheet.shape)
    (hends : ∀ p text, grid.cell? p.1 p.2 = some text → r.Ends sheet p text)
    (hq : grid.cell? q.1 q.2 = some error.marker) :
    grid.cell? p.1 p.2 = some (FormulaError.propagated (Text.trimStart error.reason)).marker := by
  rcases h with ⟨text, formula, before, reference, after, found, htext, hformula, hlisted, hbefore,
    hposition, _, _⟩
  have hread : grid.read reference = .error (.propagated (Text.trimStart error.reason)) := by
    rw [Grid.read_of_cell hposition hq]
    exact shownValue_marker error
  have hvalues : ∀ b ∈ before, ∃ value, grid.read b = .ok value := by
    intro b hb
    rcases hbefore b hb with ⟨s, value, hs, hvalue, hnot⟩
    exact ⟨value, by rw [Grid.read_of_cell hs hvalue, shownValue_of_not_marker hnot]⟩
  rw [← Grid.referencesIn_congr hshape] at hlisted
  have honce := evaluateOnce_eq_error_of_read (r := r) hlisted hvalues hread
  rcases Grid.exists_cell?_of_shape_eq hshape.symm htext with ⟨shown, hshown⟩
  have hequation := Ends.eq_cellText_evaluateOnce hshape hends htext hformula (hends p shown hshown)
  rw [hshown, hequation, honce, cellText]

/-! ## Any number of steps -/

theorem cell?_eq_propagated_of_transGen {error : FormulaError}
    (h : Relation.TransGen (sheet.StopsAt grid) p q) (hshape : grid.shape = sheet.shape)
    (hends : ∀ p text, grid.cell? p.1 p.2 = some text → r.Ends sheet p text)
    (hq : grid.cell? q.1 q.2 = some error.marker) :
    grid.cell? p.1 p.2 = some (FormulaError.propagated (Text.trimStart error.reason)).marker := by
  induction h using Relation.TransGen.head_induction_on with
  | single hstep => exact cell?_eq_propagated hstep hshape hends hq
  | head hstep _ ih =>
    -- There are no blanks left to drop after the first step.
    have hreason : Text.trimStart (FormulaError.propagated (Text.trimStart error.reason)).reason =
        Text.trimStart error.reason := Text.trimStart_trimStart error.reason
    rw [cell?_eq_propagated hstep hshape hends ih, hreason]

/-- Errors are passed on. Where formulas stop at one another, up to one that stops at an error marker, all of
them show the reason of that marker without the blanks that it starts with. That is the very text of the marker,
unless the evaluator gave the reason and it starts with a blank. -/
theorem evaluateTable_passesErrorsOn (r : Resolver) (sheet : Grid) (hyields : r.YieldsText)
    (hplain : r.YieldsNoMarkers) (hwritten : sheet.WrittenInBasicLetters) (hmarkers : sheet.HasNoMarkers)
    (hdepth : 1 ≤ r.maxDepth) {p q : Nat × Nat}
    (hchain : Relation.TransGen (sheet.StopsAt (r.evaluateTable sheet)) p q) :
    ∃ error : FormulaError, (r.evaluateTable sheet).cell? q.1 q.2 = some error.marker ∧
      (r.evaluateTable sheet).cell? p.1 p.2 =
        some (FormulaError.propagated (Text.trimStart error.reason)).marker ∧
      ((r.evaluateTable sheet).cell? p.1 p.2 = some error.marker ∨
        ∃ expression failure, r.evaluate expression = .error failure ∧ failure.message = error.reason ∧
          Text.trimStart error.reason ≠ error.reason) := by
  rcases evaluateTable_ends hyields (.of_written hwritten) hdepth with ⟨hshape, hends⟩
  rcases Relation.TransGen.tail'_iff.1 hchain with ⟨s, _, hlast⟩
  rcases hlast with ⟨_, _, _, _, _, found, _, _, _, _, _, hfound, hmarker⟩
  rcases exists_error_of_isMarker hplain hmarkers hshape hends hfound hmarker with ⟨error, rfl, hreason⟩
  have hshown := cell?_eq_propagated_of_transGen hchain hshape hends hfound
  refine ⟨error, hfound, hshown, ?_⟩
  by_cases htrimmed : Text.trimStart error.reason = error.reason
  · left
    rw [hshown, htrimmed]
    rfl
  · right
    rcases hreason.resolve_left htrimmed with ⟨expression, failure, hfailure, hmessage⟩
    exact ⟨expression, failure, hfailure, hmessage, htrimmed⟩

/-- The error of an unknown name, passed on by a formula to another one that refers to a value before. -/
theorem evaluateTable_passesErrorsOn_of_unknown :
    let shown := (Resolver.mk arithmetic 2).evaluateTable [["=abc", "=[A1]", "=[D1]*[B1]", "7"]]
    Relation.TransGen (Grid.StopsAt [["=abc", "=[A1]", "=[D1]*[B1]", "7"]] shown) (0, 2) (0, 0) ∧
      ∃ error : FormulaError, shown.cell? 0 0 = some error.marker ∧
        shown.cell? 0 2 = some (FormulaError.propagated (Text.trimStart error.reason)).marker ∧
        (shown.cell? 0 2 = some error.marker ∨
          ∃ expression failure, arithmetic expression = .error failure ∧
            failure.message = error.reason ∧ Text.trimStart error.reason ≠ error.reason) := by
  intro shown
  have hshown : shown = [["!ERROR! undefined variable 'abc'", "!ERROR! undefined variable 'abc'",
      "!ERROR! undefined variable 'abc'", "7"]] := by decide +kernel
  have hlast : Grid.StopsAt [["=abc", "=[A1]", "=[D1]*[B1]", "7"]] shown (0, 1) (0, 0) := by
    rw [hshown]
    exact ⟨_, _, [], ⟨['A'], ['1']⟩, [], _, rfl, rfl, by decide +kernel, by simp, by decide +kernel, rfl,
      by decide +kernel⟩
  have hfirst : Grid.StopsAt [["=abc", "=[A1]", "=[D1]*[B1]", "7"]] shown (0, 2) (0, 1) := by
    rw [hshown]
    refine ⟨_, _, [⟨['D'], ['1']⟩], ⟨['B'], ['1']⟩, [], _, rfl, rfl, by decide +kernel, ?_,
      by decide +kernel, rfl, by decide +kernel⟩
    intro b hb
    rw [List.mem_singleton.1 hb]
    exact ⟨(0, 3), _, by decide +kernel, rfl, by decide +kernel⟩
  have hchain := Relation.TransGen.head hfirst (.single hlast)
  have hpassed := evaluateTable_passesErrorsOn (Resolver.mk arithmetic 2)
    [["=abc", "=[A1]", "=[D1]*[B1]", "7"]] (arithmetic_yieldsText 2) (arithmetic_speaksPlainly 2).result
    (by decide +kernel) (by decide +kernel) (by decide) hchain
  exact ⟨hchain, hpassed⟩

/-- The blank that an evaluator puts before its reason is there in the first cell and is not passed on. -/
theorem not_passedOn_of_blank :
    let r : Resolver := ⟨fun _ => .error (.rejected " x"), defaultMaxDepth⟩
    let shown := r.evaluateTable [["=1", "=[A1]"]]
    r.YieldsText ∧ r.YieldsNoMarkers ∧ Grid.WrittenInBasicLetters [["=1", "=[A1]"]] ∧
      Grid.HasNoMarkers [["=1", "=[A1]"]] ∧ 1 ≤ r.maxDepth ∧
      Grid.StopsAt [["=1", "=[A1]"]] shown (0, 1) (0, 0) ∧
      shown.cell? 0 0 = some "!ERROR!  x" ∧ shown.cell? 0 1 = some "!ERROR! x" := by
  intro r shown
  have hshown : shown = [["!ERROR!  x", "!ERROR! x"]] := by decide +kernel
  refine ⟨fun _ _ h => (nomatch h), fun _ _ h => (nomatch h), by decide +kernel, by decide +kernel,
    by decide, ?_, by rw [hshown]; rfl, by rw [hshown]; rfl⟩
  rw [hshown]
  exact ⟨_, _, [], ⟨['A'], ['1']⟩, [], _, rfl, rfl, by decide +kernel, by simp, by decide +kernel, rfl,
    by decide +kernel⟩

end Resolver
end SheetMarkup
