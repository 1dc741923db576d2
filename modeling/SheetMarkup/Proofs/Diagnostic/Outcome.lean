/-!
# Outcomes — computations that end without an error

What holds of every computation that ends with a result or with an error, whatever the errors are.

* `eq_ok_of_toOption`: outcomes that are compared as options
* `foldlM_cons_ok`: a run of steps that succeed
-/

namespace SheetMarkup

variable {α β ε : Type}

/-- Outcomes are compared as options where errors cannot be compared. -/
theorem eq_ok_of_toOption {result : Except ε α} {value : α}
    (h : result.toOption = some value) : result = .ok value := by
  cases result with
  | error error => cases h
  | ok found => rw [Option.some.inj h]

/-- A step that succeeds is the start of a run. -/
theorem foldlM_cons_ok {σ : Type} {f : σ → α → Except ε σ} {s t u : σ} {x : α} {xs : List α}
    (h : f s x = .ok t) (hrest : xs.foldlM f t = .ok u) : (x :: xs).foldlM f s = .ok u := by
  rw [List.foldlM_cons, h]
  exact hrest

theorem map_ok {read : Except ε α} {value : α} (f : α → β) (h : read = .ok value) :
    read.map f = .ok (f value) := by
  rw [h]
  rfl

end SheetMarkup
