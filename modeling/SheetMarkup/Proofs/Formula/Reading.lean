import SheetMarkup.Formula.Resolver
import SheetMarkup.Proofs.Formula.Token
import SheetMarkup.Proofs.Grid.Cells

/-!
# Reading — one evaluation of a formula against a grid

A formula can be evaluated without following any reference further: each reference stands for what
the grid shows at the cell it names. A reference to no cell and a reference to an error marker end
the evaluation, so only the references up to the first such one count.

* `formula?`: the formula of a cell text
* `Grid.read`, `Resolver.evaluateOnce`: what a reference stands for, and the evaluation
* `eq_of_prepare`, `error_of_prepare`, `expandRanges_induction`: formulas before their references are read
* `Grid.consulted`: the references that count
* `evaluateOnce_congr`: grids that agree on them give the same result
* `evaluateOnce_eq_ok`, `evaluateOnce_eq_error`: what a value or an error comes from
-/

namespace SheetMarkup

/-- The formula of a cell text: what follows the equals sign that it starts with. -/
def formula? (text : String) : Option (List Char) :=
  match text.toList with
  | '=' :: formula => some formula
  | _ => none

/-- What a cell text is to a formula that refers to it: a value, or the error of a marker. -/
def shownValue (text : String) : Except FormulaError String :=
  match FormulaError.ofMarker? text with
  | some error => .error error
  | none => .ok text

namespace Grid

def read (grid : Grid) (reference : Corner) : Except FormulaError String :=
  match reference.position?.bind fun p => grid.cell? p.1 p.2 with
  | none => .error (.nonExistentCell reference.canonical)
  | some text => shownValue text

/-- An expression with references replaced, one after another, by what they stand for in a grid, up to
the first that stands for no value. -/
def readInto (grid : Grid) : List Corner → List Char → Except FormulaError (List Char)
  | [], expression => .ok expression
  | reference :: rest, expression =>
    match grid.read reference with
    | .error error => .error error
    | .ok value => grid.readInto rest (Text.replaceAll reference.token value.toList expression)

/-- The references up to the first that stands for no value, that one included. -/
def consulted (grid : Grid) (references : List Corner) : List Corner :=
  takeThrough (fun reference => !(grid.read reference).isOk) references

/-- The references of a formula, its ranges expanded; none if it is refused as a whole. -/
def referencesIn (grid : Grid) (formula : List Char) : List Corner :=
  match prepare grid formula with
  | .error _ => []
  | .ok expression => references expression

def referencesAt (grid : Grid) (p : Nat × Nat) : List Corner :=
  match (grid.cell? p.1 p.2).bind formula? with
  | none => []
  | some formula => grid.referencesIn formula

end Grid

/-- The result of a formula where every reference stands for what a grid shows. No reference is
followed any further. -/
def Resolver.evaluateOnce (r : Resolver) (grid : Grid) (formula : List Char) :
    Except FormulaError String :=
  match prepare grid formula with
  | .error error => .error error
  | .ok expression =>
    match grid.readInto (references expression) expression with
    | .error error => .error error
    | .ok expression => r.compute expression

/-! ## Markers -/

theorem formula?_eq_none_iff {text : String} :
    formula? text = none ↔ text.toList.head? ≠ some '=' := by
  unfold formula?
  cases text.toList with
  | nil => simp
  | cons c cs =>
    by_cases hc : c = '='
    · simp [hc]
    · simp only [List.head?_cons, ne_eq, Option.some.injEq, hc, not_false_iff, iff_true]
      split
      · rename_i heq
        exact absurd (List.cons.inj heq).1 hc
      · rfl

theorem formula?_marker (error : FormulaError) : formula? error.marker = none := by
  rw [formula?_eq_none_iff, FormulaError.marker, String.toList_append, String.toList_append]
  have hstart : markerStart.toList = ['!', 'E', 'R', 'R', 'O', 'R', '!'] := rfl
  simp [hstart]

/-- A marker passes on its reason, without the blanks that the reason starts with. -/
theorem ofMarker?_marker (error : FormulaError) :
    FormulaError.ofMarker? error.marker =
      some (.propagated (String.ofList (Text.dropBlanks error.reason.toList))) := by
  have hblank : Text.isBlank ' ' = true := by decide
  have hprefix : markerStart.toList.isPrefixOf? error.marker.toList =
      some (' ' :: error.reason.toList) := by
    rw [FormulaError.marker, String.toList_append, String.toList_append]
    have hstart : markerStart.toList = ['!', 'E', 'R', 'R', 'O', 'R', '!'] := rfl
    rw [hstart]
    rfl
  simp [FormulaError.ofMarker?, hprefix, Text.dropBlanks, hblank]

theorem shownValue_marker (error : FormulaError) :
    shownValue error.marker =
      .error (.propagated (String.ofList (Text.dropBlanks error.reason.toList))) := by
  simp [shownValue, ofMarker?_marker]

/-- A reason that does not start with a blank is passed on as it is. -/
theorem marker_propagated {error : FormulaError} {c : Char} {cs : List Char}
    (hreason : error.reason.toList = c :: cs) (hc : Text.isBlank c = false) :
    (FormulaError.propagated
      (String.ofList (Text.dropBlanks error.reason.toList))).marker = error.marker := by
  have hdrop : String.ofList (Text.dropBlanks error.reason.toList) = error.reason := by
    simp only [hreason, Text.dropBlanks, List.dropWhile_cons, hc]
    rw [← hreason]
    simp
  rw [hdrop]
  rfl

/-- What is shown as an error is one that is passed on. -/
theorem exists_reason_of_shownValue {text : String} {error : FormulaError}
    (h : shownValue text = .error error) : ∃ reason, error = .propagated reason := by
  unfold shownValue FormulaError.ofMarker? at h
  cases hrest : markerStart.toList.isPrefixOf? text.toList with
  | none => simp [hrest] at h
  | some rest =>
    rw [hrest] at h
    cases h
    exact ⟨_, rfl⟩

theorem shownValue_ne_recursionLimit (text : String) (depth : Nat) :
    shownValue text ≠ .error (.recursionLimit depth) := by
  intro hcut
  rcases exists_reason_of_shownValue hcut with ⟨reason, hreason⟩
  cases hreason

theorem eq_of_shownValue_eq_ok {text value : String} (h : shownValue text = .ok value) :
    text = value := by
  unfold shownValue at h
  split at h
  · cases h
  · exact Except.ok.inj h

/-! ## Prepared formulas -/

/-- A formula may be refused as a whole for two reasons. -/
theorem error_of_prepare {grid : Grid} {formula : List Char} {error : FormulaError}
    (h : prepare grid formula = .error error) :
    error = .tooManyEquals ∨ error = .adjacentReferences := by
  unfold prepare at h
  split at h
  · exact Or.inl (Except.error.inj h).symm
  · split at h
    · exact Or.inr (Except.error.inj h).symm
    · cases h

theorem eq_of_prepare {grid : Grid} {formula expression : List Char}
    (h : prepare grid formula = .ok expression) :
    expression = expandRanges grid (formula.filter fun c => !Text.isBlank c) := by
  unfold prepare at h
  split at h
  · cases h
  · split at h
    · cases h
    · exact (Except.ok.inj h).symm

/-- What every replacement of a range keeps holds of an expression with its ranges expanded. -/
theorem expandRanges_induction {grid : Grid} {motive : List Char → Prop}
    (step : ∀ (range : RangeToken) text, motive text →
      motive (Text.replaceAll range.token (range.expand grid.length grid.width) text))
    {expression : List Char} (h : motive expression) : motive (expandRanges grid expression) := by
  unfold expandRanges
  generalize rangeTokens expression = ranges
  induction ranges generalizing expression with
  | nil => exact h
  | cons range ranges ih => exact ih (step range expression h)

/-! ## Grids of one shape -/

theorem prepare_congr {grid other : Grid} (hshape : grid.shape = other.shape)
    (formula : List Char) : prepare grid formula = prepare other formula := by
  have hlength := Grid.length_eq_of_shape_eq hshape
  have hwidth := Grid.width_eq_of_shape_eq hshape
  simp [prepare, expandRanges, hlength, hwidth]

theorem Grid.referencesIn_congr {grid other : Grid} (hshape : grid.shape = other.shape)
    (formula : List Char) : grid.referencesIn formula = other.referencesIn formula := by
  simp [Grid.referencesIn, prepare_congr hshape]

theorem Grid.referencesAt_of_formula {grid : Grid} {p : Nat × Nat} {text : String}
    {formula : List Char} (htext : grid.cell? p.1 p.2 = some text)
    (hformula : formula? text = some formula) :
    grid.referencesAt p = grid.referencesIn formula := by
  simp [Grid.referencesAt, htext, hformula]

theorem Grid.read_of_cell {grid : Grid} {reference : Corner} {p : Nat × Nat} {text : String}
    (hposition : reference.position? = some p) (htext : grid.cell? p.1 p.2 = some text) :
    grid.read reference = shownValue text := by
  simp [Grid.read, hposition, htext]

/-- A reference that stands for a value names a cell that holds it. -/
theorem Grid.cell_of_read_eq_ok {grid : Grid} {reference : Corner} {value : String}
    (h : grid.read reference = .ok value) :
    ∃ p, reference.position? = some p ∧ grid.cell? p.1 p.2 = some value ∧
      shownValue value = .ok value := by
  unfold Grid.read at h
  split at h
  · cases h
  · rename_i text htext
    rcases Option.bind_eq_some_iff.1 htext with ⟨p, hp, hcell⟩
    have heq := eq_of_shownValue_eq_ok h
    subst heq
    exact ⟨p, hp, hcell, h⟩

/-- A reference stands for the same in two grids of one shape if they agree on the cell it names. -/
theorem Grid.read_congr {grid other : Grid} {reference : Corner} (hshape : grid.shape = other.shape)
    (h : ∀ p text text', reference.position? = some p → grid.cell? p.1 p.2 = some text →
      other.cell? p.1 p.2 = some text' → text = text') :
    grid.read reference = other.read reference := by
  cases hposition : reference.position? with
  | none => simp [Grid.read, hposition]
  | some p =>
    cases htext : grid.cell? p.1 p.2 with
    | none =>
      -- A cell outside one of the grids is outside the other.
      have hnone : other.cell? p.1 p.2 = none := by
        cases htext' : other.cell? p.1 p.2 with
        | none => rfl
        | some text' =>
          rcases Grid.exists_cell?_of_shape_eq hshape.symm htext' with ⟨found, hfound⟩
          rw [htext] at hfound
          cases hfound
      simp [Grid.read, hposition, htext, hnone]
    | some text =>
      rcases Grid.exists_cell?_of_shape_eq hshape htext with ⟨text', htext'⟩
      rw [Grid.read_of_cell hposition htext, Grid.read_of_cell hposition htext',
        h p text text' hposition htext htext']

/-! ## Consulted references -/

theorem mem_takeThrough_cons {α : Type} {beyond : α → Bool} {x y : α} {xs : List α} :
    y ∈ takeThrough beyond (x :: xs) ↔ y = x ∨ (beyond x = false ∧ y ∈ takeThrough beyond xs) := by
  cases hx : beyond x with
  | true => simp [takeThrough, hx]
  | false => simp [takeThrough, hx]

/-- An entry is reached if none of the entries before it that are reached is beyond. -/
theorem mem_takeThrough_of_reached {α : Type} {beyond : α → Bool} {before : List α} {x : α}
    {after : List α}
    (h : ∀ b ∈ before, b ∈ takeThrough beyond (before ++ x :: after) → beyond b = false) :
    x ∈ takeThrough beyond (before ++ x :: after) := by
  induction before with
  | nil => exact mem_takeThrough_cons.2 (Or.inl rfl)
  | cons b before ih =>
    have hb : beyond b = false := by
      apply h b List.mem_cons_self
      exact mem_takeThrough_cons.2 (Or.inl rfl)
    apply mem_takeThrough_cons.2
    refine Or.inr ⟨hb, ih fun c hc hreached => ?_⟩
    exact h c (List.mem_cons_of_mem b hc) (mem_takeThrough_cons.2 (Or.inr ⟨hb, hreached⟩))

namespace Grid

/-- Grids give the same result if they agree on the references that both of them consult. -/
theorem readInto_congr {grid other : Grid} {references : List Corner}
    (h : ∀ reference ∈ grid.consulted references, reference ∈ other.consulted references →
      grid.read reference = other.read reference) (expression : List Char) :
    grid.readInto references expression = other.readInto references expression := by
  induction references generalizing expression with
  | nil => rfl
  | cons reference rest ih =>
    -- Both grids consult the first reference, and the others only behind a value.
    have hhead : grid.read reference = other.read reference :=
      h reference (mem_takeThrough_cons.2 (Or.inl rfl)) (mem_takeThrough_cons.2 (Or.inl rfl))
    simp only [readInto]
    rw [← hhead]
    cases hread : grid.read reference with
    | error error => rfl
    | ok value =>
      apply ih
      intro next hnext hnext'
      apply h next
      · exact mem_takeThrough_cons.2 (Or.inr ⟨by simp [hread, Except.isOk, Except.toBool], hnext⟩)
      · apply mem_takeThrough_cons.2
        exact Or.inr ⟨by simp [← hhead, hread, Except.isOk, Except.toBool], hnext'⟩

theorem consulted_congr {grid other : Grid} {references : List Corner}
    (h : ∀ reference ∈ grid.consulted references, reference ∈ other.consulted references →
      grid.read reference = other.read reference) :
    grid.consulted references = other.consulted references := by
  induction references with
  | nil => rfl
  | cons reference rest ih =>
    have hhead : grid.read reference = other.read reference :=
      h reference (mem_takeThrough_cons.2 (Or.inl rfl)) (mem_takeThrough_cons.2 (Or.inl rfl))
    have hbeyond : (!(grid.read reference).isOk) = !(other.read reference).isOk := by rw [hhead]
    unfold consulted takeThrough
    rw [← hbeyond]
    cases hok : !(grid.read reference).isOk with
    | true => rfl
    | false =>
      have hrest : grid.consulted rest = other.consulted rest := by
        apply ih
        intro next hnext hnext'
        apply h next
        · exact mem_takeThrough_cons.2 (Or.inr ⟨hok, hnext⟩)
        · exact mem_takeThrough_cons.2 (Or.inr ⟨hbeyond ▸ hok, hnext'⟩)
      simp [show takeThrough _ rest = _ from hrest, consulted]

end Grid

theorem Resolver.evaluateOnce_congr (r : Resolver) {grid other : Grid} {formula : List Char}
    (hshape : grid.shape = other.shape)
    (h : ∀ reference ∈ grid.consulted (grid.referencesIn formula),
      reference ∈ other.consulted (grid.referencesIn formula) →
      grid.read reference = other.read reference) :
    r.evaluateOnce grid formula = r.evaluateOnce other formula := by
  unfold Resolver.evaluateOnce
  rw [← prepare_congr hshape]
  cases hprepare : prepare grid formula with
  | error error => rfl
  | ok expression =>
    simp only [Grid.referencesIn, hprepare] at h
    simp only [Grid.readInto_congr h expression]

/-! ## What an evaluation comes from -/

namespace Grid

variable {grid : Grid} {references : List Corner} {expression result : List Char}

theorem exists_value_of_readInto (h : grid.readInto references expression = .ok result) :
    ∀ reference ∈ references, ∃ value, grid.read reference = .ok value := by
  induction references generalizing expression with
  | nil => simp
  | cons first rest ih =>
    intro reference hreference
    simp only [readInto] at h
    split at h
    · cases h
    · rename_i value hvalue
      rcases List.mem_cons.1 hreference with rfl | hrest
      · exact ⟨value, hvalue⟩
      · exact ih h reference hrest

/-- Where every reference stands for a value all of them count. -/
theorem consulted_eq_self (h : ∀ reference ∈ references, ∃ value, grid.read reference = .ok value) :
    grid.consulted references = references := by
  apply takeThrough_of_forall
  intro reference hreference
  rcases h reference hreference with ⟨value, hvalue⟩
  simp [hvalue, Except.isOk, Except.toBool]

theorem exists_error_of_readInto {error : FormulaError}
    (h : grid.readInto references expression = .error error) :
    ∃ reference ∈ grid.consulted references, grid.read reference = .error error := by
  induction references generalizing expression with
  | nil => cases h
  | cons first rest ih =>
    simp only [readInto] at h
    split at h
    · rename_i found hfound
      cases h
      exact ⟨first, mem_takeThrough_cons.2 (Or.inl rfl), hfound⟩
    · rename_i value hvalue
      rcases ih h with ⟨reference, hreference, hread⟩
      have hok : (!(grid.read first).isOk) = false := by
        simp [hvalue, Except.isOk, Except.toBool]
      exact ⟨reference, mem_takeThrough_cons.2 (Or.inr ⟨hok, hreference⟩), hread⟩

end Grid

/-- A formula with a value is not refused, its references stand for values, and the value is computed. -/
theorem Resolver.evaluateOnce_eq_ok {r : Resolver} {grid : Grid} {formula : List Char}
    {value : String} (h : r.evaluateOnce grid formula = .ok value) :
    (∃ expression, prepare grid formula = .ok expression) ∧
      (∀ reference ∈ grid.referencesIn formula, ∃ shown, grid.read reference = .ok shown) ∧
      ∃ expression, r.evaluate expression = .ok value := by
  unfold evaluateOnce at h
  split at h
  · cases h
  · rename_i expression hprepare
    split at h
    · cases h
    · rename_i filled hfilled
      have hread := Grid.exists_value_of_readInto hfilled
      refine ⟨⟨expression, hprepare⟩, by simpa [Grid.referencesIn, hprepare] using hread, ?_⟩
      unfold compute at h
      split at h
      · rename_i computed hcomputed
        cases h
        exact ⟨_, hcomputed⟩
      · cases h

/-- What fails last is the evaluator. -/
theorem Resolver.exists_failure_of_compute {r : Resolver} {expression : List Char} {error : FormulaError}
    (h : r.compute expression = .error error) :
    ∃ failure, r.evaluate (String.ofList expression) = .error failure ∧
      error = .evaluationFailed failure.message := by
  unfold compute at h
  split at h
  · cases h
  · rename_i failure hfailure
    exact ⟨failure, hfailure, (Except.error.inj h).symm⟩

/-- A formula without a value is refused, refers to an error or to no cell, or fails when it is
computed. -/
theorem Resolver.evaluateOnce_eq_error {r : Resolver} {grid : Grid} {formula : List Char}
    {error : FormulaError} (h : r.evaluateOnce grid formula = .error error) :
    (error = .tooManyEquals ∨ error = .adjacentReferences) ∨
      (∃ reference ∈ grid.consulted (grid.referencesIn formula),
        grid.read reference = .error error) ∨
      ∃ expression failure, r.evaluate expression = .error failure ∧
        error = .evaluationFailed failure.message := by
  unfold evaluateOnce at h
  split at h
  · rename_i refusal hprepare
    cases h
    exact Or.inl (error_of_prepare hprepare)
  · rename_i expression hprepare
    right
    split at h
    · rename_i failure hfailure
      cases h
      left
      simpa [Grid.referencesIn, hprepare] using Grid.exists_error_of_readInto hfailure
    · exact Or.inr ⟨_, exists_failure_of_compute h⟩

end SheetMarkup
