import SheetMarkup.Expression.Machine
import SheetMarkup.Proofs.Decimal.Numeral
import SheetMarkup.Proofs.Diagnostic.Outcome
import SheetMarkup.Proofs.Formula.Grounded

/-!
# Results — arithmetic yields no formulas

A result is written with digits, a point and a minus sign, or as one of the words for what is no
number. None of them starts with an equals sign or an exclamation mark, so a result that is written
into a cell is not taken for a formula or an error later.

* `startsResult_resultText`: the characters that results start with
* `arithmetic_yieldsText`: the evaluator for arithmetic yields texts
-/

namespace SheetMarkup

namespace Decimal

def StartsResult (c : Char) : Prop :=
  c.isDigit = true ∨ c = '.' ∨ c = '-' ∨ c = 'N' ∨ c = 'i'

instance (c : Char) : Decidable (StartsResult c) :=
  inferInstanceAs (Decidable (c.isDigit = true ∨ c = '.' ∨ c = '-' ∨ c = 'N' ∨ c = 'i'))

theorem startsResult_plainText {x : Float} {c : Char} (h : (plainText x).toList.head? = some c) :
    StartsResult c := by
  have hword : ∀ first rest, c ∈ (String.ofList (first :: rest)).toList.head? → c = first := by
    intro first rest hc
    simpa [eq_comm] using hc
  unfold plainText at h
  split at h
  · exact hword 'N' ['a', 'N'] h ▸ by decide
  · split at h
    · exact hword '-' ['i', 'n', 'f'] h ▸ by decide
    · exact hword 'i' ['n', 'f'] h ▸ by decide
  · rw [String.toList_ofList] at h
    rcases mem_plain (List.mem_of_mem_head? h) with hdigit | hpoint | hminus
    · exact Or.inl hdigit
    · exact Or.inr (Or.inl hpoint)
    · exact Or.inr (Or.inr (Or.inl hminus))

theorem startsResult_resultText {x : Float} {c : Char}
    (h : (resultText x).toList.head? = some c) : StartsResult c := by
  unfold resultText at h
  dsimp only at h
  split at h
  · have hzero : c = '0' := by simpa [eq_comm] using h
    exact hzero ▸ by decide
  · exact startsResult_plainText h

theorem formula?_resultText (x : Float) : formula? (resultText x) = none := by
  rw [formula?_eq_none_iff]
  intro hhead
  -- No result starts with an equals sign.
  exact absurd (startsResult_resultText hhead) (by decide)

theorem ofMarker?_resultText (x : Float) : FormulaError.ofMarker? (resultText x) = none := by
  have hstart : markerStart.toList = '!' :: "ERROR!".toList := rfl
  rw [FormulaError.ofMarker?, Option.map_eq_none_iff, hstart]
  cases htext : (resultText x).toList with
  | nil => rfl
  | cons c cs =>
    have hne : ¬ '!' = c := by
      rintro rfl
      exact absurd (startsResult_resultText (x := x) (by rw [htext]; rfl)) (by decide)
    have hstep : ('!' :: "ERROR!".toList).isPrefixOf? (c :: cs) =
        if '!' == c then "ERROR!".toList.isPrefixOf? cs else none := rfl
    rw [hstep, if_neg (by simpa using hne)]

end Decimal

/-- A value of an expression is the text of a result. -/
theorem exists_result_of_arithmetic {expression value : String}
    (h : arithmetic expression = .ok value) : ∃ x, value = Decimal.resultText x := by
  simp only [arithmetic] at h
  cases hnumber : evaluateNumber expression with
  | error error => simp [hnumber, Except.map] at h
  | ok number =>
    simp only [hnumber, Except.map, Except.ok.injEq] at h
    exact ⟨number, h.symm⟩

/-- The evaluator for arithmetic yields no formulas. -/
theorem arithmetic_yieldsText (maxDepth : Nat) : (Resolver.mk arithmetic maxDepth).YieldsText := by
  intro expression value hvalue
  rcases exists_result_of_arithmetic hvalue with ⟨x, rfl⟩
  exact Decimal.formula?_resultText x

end SheetMarkup
