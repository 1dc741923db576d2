import Mathlib.Data.Fintype.Pigeonhole
import Mathlib.Data.Set.Finite.Basic
import Mathlib.Logic.Relation
import SheetMarkup.Proofs.Expression.Reasons
import SheetMarkup.Proofs.Formula.CellEquations

/-!
# Cycles — which cells are reported to be circular

The references between the cells of a sheet form a graph. The formulas that lead to a cycle in it are
just those that cannot be computed by working from the cells without formulas upwards, and these are
the ones that end with an error. The errors that speak of a cycle or of a chain that is too long are
found nowhere else: a formula that is grounded passes on only what a computation, a missing cell or a
refused formula gives as the reason.

* `Grid.Refers`, `Grid.ReachesCycle`: the graph, and the cells that lead to a cycle
* `Grounded.acc_refers`: a formula that has a value leads to no cycle
* `Grounded.blameless`: a grounded cell does not speak of a cycle
* `Resolver.reachesCycle_of_not_grounded`: a cell without a value leads to a cycle
* `evaluateTable_reportsCycles`: what the cells of an evaluated table say about cycles
-/

namespace SheetMarkup

/-! ## The graph of references -/

namespace Grid

/-- The references of a formula, its ranges expanded, also where the formula is refused as a whole. -/
def mentioned (grid : Grid) (formula : List Char) : List Corner :=
  references (expandRanges grid (formula.filter fun c => !Text.isBlank c))

/-- There is a formula in a cell that refers to another cell of the grid. -/
def Refers (grid : Grid) (p q : Nat × Nat) : Prop :=
  ∃ text formula, grid.cell? p.1 p.2 = some text ∧ formula? text = some formula ∧
    (∃ reference ∈ grid.mentioned formula, reference.position? = some q) ∧
    ∃ found, grid.cell? q.1 q.2 = some found

/-- References lead from a cell to one that is on a cycle of references. -/
def ReachesCycle (grid : Grid) (p : Nat × Nat) : Prop :=
  ∃ q, Relation.ReflTransGen grid.Refers p q ∧ Relation.TransGen grid.Refers q q

def HasNoMarkers (grid : Grid) : Prop :=
  ∀ cells ∈ grid, ∀ text ∈ cells, isMarker text = false

instance (grid : Grid) : Decidable grid.HasNoMarkers :=
  inferInstanceAs (Decidable (∀ cells ∈ grid, ∀ text ∈ cells, isMarker text = false))

variable {grid : Grid} {p q s : Nat × Nat}

theorem mentioned_eq_referencesIn {formula expression : List Char}
    (h : prepare grid formula = .ok expression) :
    grid.mentioned formula = grid.referencesIn formula := by
  unfold referencesIn
  rw [h, eq_of_prepare h]
  rfl

theorem referencesIn_subset_mentioned {formula : List Char} {reference : Corner}
    (h : reference ∈ grid.referencesIn formula) : reference ∈ grid.mentioned formula := by
  cases hprepare : prepare grid formula with
  | error error => simp [referencesIn, hprepare] at h
  | ok expression =>
    rw [mentioned_eq_referencesIn hprepare]
    exact h

/-- A cell that is on a cycle or leads to one refers to such a cell. -/
theorem ReachesCycle.exists_refers (h : grid.ReachesCycle p) :
    ∃ q, grid.Refers p q ∧ grid.ReachesCycle q := by
  rcases h with ⟨s, hpath, hloop⟩
  rcases hpath.cases_head with rfl | ⟨q, hrefers, hrest⟩
  · rcases Relation.TransGen.head'_iff.1 hloop with ⟨q, hrefers, hback⟩
    exact ⟨q, hrefers, p, hback, hloop⟩
  · exact ⟨q, hrefers, s, hrest, hloop⟩

theorem not_reachesCycle_of_acc (h : Acc (fun q p => grid.Refers p q) p) :
    ¬ grid.ReachesCycle p := by
  induction h with
  | intro p _ ih =>
    intro hcycle
    rcases hcycle.exists_refers with ⟨q, hrefers, hcycle⟩
    exact ih q hrefers hcycle

/-- There are finitely many cells, so a walk that never ends comes back to one of them. -/
theorem reachesCycle_of_walk (walk : Nat → Nat × Nat)
    (hinside : ∀ n, ∃ text, grid.cell? (walk n).1 (walk n).2 = some text)
    (hstep : ∀ n, grid.Refers (walk n) (walk (n + 1))) : grid.ReachesCycle (walk 0) := by
  have hmem : ∀ n, walk n ∈ grid.positions := fun n => mem_positions_iff.2 (hinside n)
  have hpath : ∀ m n, Relation.ReflTransGen grid.Refers (walk m) (walk (m + n)) := by
    intro m n
    induction n with
    | zero => exact Relation.ReflTransGen.refl
    | succ n ih => exact ih.tail (hstep (m + n))
  have hloop : ∀ m n, m < n → walk m = walk n → grid.ReachesCycle (walk 0) := by
    intro m n hlt heq
    refine ⟨walk m, by simpa using hpath 0 m, Relation.TransGen.head' (hstep m) ?_⟩
    have hback := hpath (m + 1) (n - (m + 1))
    rw [show m + 1 + (n - (m + 1)) = n by omega, ← heq] at hback
    exact hback
  have hfinite : Finite { p // p ∈ grid.positions } := (List.finite_toSet grid.positions).to_subtype
  rcases Finite.exists_ne_map_eq_of_infinite fun n =>
    (⟨walk n, hmem n⟩ : { p // p ∈ grid.positions }) with ⟨m, n, hne, heq⟩
  have heq : walk m = walk n := congrArg Subtype.val heq
  rcases Nat.lt_or_gt_of_ne hne with hlt | hgt
  · exact hloop m n hlt heq
  · exact hloop n m hgt heq.symm

end Grid

/-! ## Errors that do not speak of cycles -/

def NamesCycle (reason : String) : Prop :=
  reason = FormulaError.circularReference.reason ∨
    ∃ depth, reason = (FormulaError.recursionLimit depth).reason

/-- The text of a cell passes on no reason that speaks of a cycle. -/
def Blameless (text : String) : Prop :=
  ∀ error, FormulaError.ofMarker? text = some error → ¬ NamesCycle error.reason

theorem NamesCycle.toList {reason : String} (h : NamesCycle reason) :
    (∃ cs, reason.toList = 'C' :: 'i' :: cs) ∨ ∃ cs, reason.toList = "Cell r".toList ++ cs := by
  rcases h with rfl | ⟨depth, rfl⟩
  · exact Or.inl ⟨"rcular Reference".toList, rfl⟩
  · exact Or.inr (Resolver.toList_reason_recursionLimit depth)

theorem NamesCycle.head? {reason : String} (h : NamesCycle reason) :
    reason.toList.head? = some 'C' := by
  rcases h.toList with ⟨cs, hcs⟩ | ⟨cs, hcs⟩
  · rw [hcs]
    rfl
  · rw [hcs]
    rfl

/-- The reason of an error that is read from a marker starts with no blank. -/
theorem trimStart_reason_of_ofMarker? {text : String} {error : FormulaError}
    (h : FormulaError.ofMarker? text = some error) : Text.trimStart error.reason = error.reason := by
  rcases Option.map_eq_some_iff.1 h with ⟨rest, _, rfl⟩
  exact Text.trimStart_dropBlanks rest

theorem trimStart_reason_nonExistentCell (token : String) :
    Text.trimStart (FormulaError.nonExistentCell token).reason =
      (FormulaError.nonExistentCell token).reason := by
  have hhead : (FormulaError.nonExistentCell token).reason.toList.head? = some 'C' := by
    have hparts : (FormulaError.nonExistentCell token).reason = "Cell " ++ token ++ " does not exist" := rfl
    rw [hparts, String.toList_append, String.toList_append]
    rfl
  exact Text.trimStart_of_head? hhead (by decide)

theorem isSome_ofMarker? (text : String) :
    (FormulaError.ofMarker? text).isSome = isMarker text := by
  rw [FormulaError.ofMarker?, Option.isSome_map, List.isSome_isPrefixOf?_eq_isPrefixOf, isMarker]

theorem isMarker_marker (error : FormulaError) : isMarker error.marker = true := by
  rw [← isSome_ofMarker?, ofMarker?_marker]
  rfl

theorem isMarker_of_shownValue {text value : String} (h : shownValue text = .ok value) :
    isMarker text = false := by
  rw [← isSome_ofMarker?]
  unfold shownValue at h
  split at h
  · cases h
  · rename_i hnone
    simp [hnone]

theorem shownValue_of_not_marker {text : String} (h : isMarker text = false) :
    shownValue text = .ok text := by
  rw [← isSome_ofMarker?, Option.isSome_eq_false_iff, Option.isNone_iff_eq_none] at h
  simp [shownValue, h]

theorem blameless_of_not_marker {text : String} (h : isMarker text = false) : Blameless text := by
  intro error herror
  rw [← isSome_ofMarker?, herror] at h
  cases h

theorem blameless_marker {error : FormulaError} (h : ¬ NamesCycle (Text.trimStart error.reason)) :
    Blameless error.marker := by
  intro passed hpassed
  rw [ofMarker?_marker] at hpassed
  cases hpassed
  exact h

theorem Blameless.ne_marker {text : String} {error : FormulaError} (h : Blameless text)
    (hnames : NamesCycle error.reason) : text ≠ error.marker := by
  rintro rfl
  have hpassed : ¬ NamesCycle (Text.trimStart error.reason) := h _ (ofMarker?_marker error)
  rw [Text.trimStart_of_head? hnames.head? (by decide)] at hpassed
  exact hpassed hnames

/-- What a blameless text is to a formula that refers to it may be shown as it is. -/
theorem Blameless.shown {text : String} {error : FormulaError} (h : Blameless text)
    (hshown : shownValue text = .error error) : Blameless error.marker := by
  unfold shownValue at hshown
  cases hpassed : FormulaError.ofMarker? text with
  | none =>
    rw [hpassed] at hshown
    cases hshown
  | some passed =>
    rw [hpassed] at hshown
    cases hshown
    apply blameless_marker
    -- The blanks before the reason are gone already.
    rw [trimStart_reason_of_ofMarker? hpassed]
    exact h error hpassed

theorem blameless_nonExistentCell (reference : Corner) :
    Blameless (FormulaError.nonExistentCell reference.canonical).marker := by
  have hcanonical : ∃ cs, reference.canonical.toList = '[' :: cs := by
    have hopen : upperChar '[' = '[' := by decide
    exact ⟨_, by simp [Corner.canonical, Corner.token, hopen]; rfl⟩
  rcases hcanonical with ⟨cs, hcs⟩
  have hreason : (FormulaError.nonExistentCell reference.canonical).reason.toList =
      'C' :: 'e' :: 'l' :: 'l' :: ' ' :: '[' :: (cs ++ " does not exist".toList) := by
    have hparts : (FormulaError.nonExistentCell reference.canonical).reason =
        "Cell " ++ reference.canonical ++ " does not exist" := rfl
    have hstart : "Cell ".toList = ['C', 'e', 'l', 'l', ' '] := rfl
    rw [hparts, String.toList_append, String.toList_append, hcs, hstart]
    rfl
  apply blameless_marker
  rw [trimStart_reason_nonExistentCell]
  intro hnames
  rcases hnames.toList with ⟨rest, hrest⟩ | ⟨rest, hrest⟩
  · rw [hreason] at hrest
    cases hrest
  · rw [hreason] at hrest
    cases hrest

theorem blameless_evaluationFailed {reason : String} (h : StartsSmall reason) :
    Blameless (FormulaError.evaluationFailed reason).marker := by
  unfold StartsSmall at h
  cases hhead : reason.toList.head? with
  | none => simp [hhead] at h
  | some c =>
    have hlower : c.isLower = true := by simpa [hhead] using h
    have hreason : (FormulaError.evaluationFailed reason).reason = reason := rfl
    apply blameless_marker
    rw [hreason, Text.trimStart_of_head? hhead (not_isBlank_of_isLower hlower)]
    intro hnames
    rw [hnames.head?] at hhead
    cases hhead
    exact absurd hlower (by decide)

namespace Resolver

variable {r : Resolver} {sheet grid : Grid} {p q : Nat × Nat}

/-- The results of the evaluator are no error markers, and the reasons it gives start with small
letters. -/
structure SpeaksPlainly (r : Resolver) : Prop where
  result : ∀ expression value, r.evaluate expression = .ok value → isMarker value = false
  reason : ∀ expression error, r.evaluate expression = .error error → StartsSmall error.message

theorem arithmetic_speaksPlainly (maxDepth : Nat) :
    (Resolver.mk arithmetic maxDepth).SpeaksPlainly where
  result := by
    intro expression value hvalue
    rcases exists_result_of_arithmetic hvalue with ⟨x, rfl⟩
    rw [← isSome_ofMarker?, Decimal.ofMarker?_resultText]
    rfl
  reason := by
    intro expression error herror
    apply ExpressionError.startsSmall_message
    rintro reason rfl
    exact arithmetic_foreseen expression reason herror

/-! ## Grounded cells -/

theorem blameless_evaluateOnce {formula : List Char} (hspeaks : r.SpeaksPlainly)
    (hread : ∀ reference ∈ grid.consulted (grid.referencesIn formula), ∀ q text,
      reference.position? = some q → grid.cell? q.1 q.2 = some text → Blameless text) :
    Blameless (cellText (r.evaluateOnce grid formula)) := by
  cases hresult : r.evaluateOnce grid formula with
  | ok value =>
    rcases evaluateOnce_eq_ok hresult with ⟨_, _, expression, hvalue⟩
    exact blameless_of_not_marker (hspeaks.result expression value hvalue)
  | error error =>
    rcases evaluateOnce_eq_error hresult with
      (rfl | rfl) | ⟨reference, hreference, herror⟩ | ⟨expression, failure, hfailure, rfl⟩
    · apply blameless_marker
      intro hnames
      exact absurd hnames.head? (by decide)
    · apply blameless_marker
      intro hnames
      exact absurd hnames.head? (by decide)
    · unfold Grid.read at herror
      split at herror
      · cases herror
        exact blameless_nonExistentCell reference
      · rename_i text htext
        rcases Option.bind_eq_some_iff.1 htext with ⟨q, hposition, hcell⟩
        exact (hread reference hreference q text hposition hcell).shown herror
    · exact blameless_evaluationFailed (hspeaks.reason expression failure hfailure)

/-- A grounded cell does not speak of a cycle. -/
theorem Grounded.blameless {value : String} (hspeaks : r.SpeaksPlainly)
    (hmarkers : sheet.HasNoMarkers) (h : r.Grounded sheet p value) : Blameless value := by
  induction h with
  | text htext _ =>
    rcases Option.bind_eq_some_iff.1 htext with ⟨cells, hcells, htext⟩
    apply blameless_of_not_marker
    exact hmarkers cells (List.mem_of_getElem? hcells) _ (List.mem_of_getElem? htext)
  | formula shown htext hformula hshape hgrounded ih => exact blameless_evaluateOnce hspeaks ih

/-- A formula that has a value leads to no cycle. -/
theorem Grounded.acc_refers {value : String} (h : r.Grounded sheet p value)
    (hvalue : isMarker value = false) : Acc (fun q p => sheet.Refers p q) p := by
  induction h with
  | text htext hplain =>
    refine Acc.intro _ fun q hq => ?_
    rcases hq with ⟨text, formula, htext', hformula, _⟩
    rw [htext] at htext'
    cases htext'
    rw [hplain] at hformula
    cases hformula
  | formula shown htext hformula hshape hgrounded ih =>
    refine Acc.intro _ fun q hq => ?_
    rcases hq with ⟨text, formula, htext', hformula', ⟨reference, hmentioned, hposition⟩, hinside⟩
    rw [htext] at htext'
    cases htext'
    rw [hformula] at hformula'
    cases hformula'
    cases hresult : r.evaluateOnce shown _ with
    | error error =>
      rw [hresult, cellText, isMarker_marker] at hvalue
      cases hvalue
    | ok result =>
      -- All references of the formula stand for values, so all of them count for it.
      rcases evaluateOnce_eq_ok hresult with ⟨⟨expression, hprepare⟩, hread, _⟩
      rw [Grid.mentioned_eq_referencesIn ((prepare_congr hshape _).symm.trans hprepare),
        ← Grid.referencesIn_congr hshape] at hmentioned
      rcases hread reference hmentioned with ⟨shownText, hshown⟩
      rcases Grid.cell_of_read_eq_ok hshown with ⟨s, hs, hcell, hvalued⟩
      rw [hposition] at hs
      cases hs
      rw [← Grid.consulted_eq_self hread] at hmentioned
      exact ih reference hmentioned q shownText hposition hcell (isMarker_of_shownValue hvalued)

/-! ## Cells that are not grounded -/

theorem Awaits.refers {before : List Corner} {reference : Corner}
    (h : r.Awaits sheet p before reference q) : sheet.Refers p q := by
  rcases h.exists_formula with ⟨text, formula, htext, hformula⟩
  rcases h.listed with ⟨after, hlisted⟩
  rw [Grid.referencesAt_of_formula htext hformula] at hlisted
  have hmem : reference ∈ sheet.referencesIn formula := by simp [hlisted]
  exact ⟨text, formula, htext, hformula,
    ⟨reference, Grid.referencesIn_subset_mentioned hmem, h.names⟩, h.inside⟩

theorem Leads.reflTransGen {n : Nat} (h : r.Leads sheet n p q) :
    Relation.ReflTransGen sheet.Refers p q := by
  induction h with
  | refl p => exact Relation.ReflTransGen.refl
  | step hawaits _ ih => exact ih.head hawaits.refers

theorem Looped.reachesCycle (h : r.Looped sheet p) : sheet.ReachesCycle p := by
  rcases h with ⟨n, q, hleads, before, reference, s, m, hawaits, hback, _⟩
  exact ⟨q, hleads.reflTransGen, Relation.TransGen.head' hawaits.refers hback.reflTransGen⟩

/-- A cell without a value waits for another one without end. -/
theorem reachesCycle_of_not_grounded (hshape : grid.shape = sheet.shape)
    (hshows : r.ShowsGrounded sheet grid) {text : String} (htext : sheet.cell? p.1 p.2 = some text)
    (hp : ∀ value, ¬ r.Grounded sheet p value) : sheet.ReachesCycle p := by
  have hnext : ∀ p, ((∃ text, sheet.cell? p.1 p.2 = some text) ∧
      ∀ value, ¬ r.Grounded sheet p value) → ∃ q, sheet.Refers p q ∧
      (∃ text, sheet.cell? q.1 q.2 = some text) ∧ ∀ value, ¬ r.Grounded sheet q value := by
    rintro p ⟨⟨text, htext⟩, hnot⟩
    cases hformula : formula? text with
    | none => exact absurd (Grounded.text htext hformula) (hnot text)
    | some formula =>
      rcases grounded_or_exists_awaits hshape hshows htext hformula with
        hgrounded | ⟨before, reference, q, hawaits, hq⟩
      · exact absurd hgrounded (hnot _)
      · exact ⟨q, hawaits.refers, hawaits.inside, hq⟩
  -- Each such cell refers to another one, and the walk along them never ends.
  choose! next hrefers hstays using hnext
  have hwalk : ∀ n, (∃ text, sheet.cell? (next^[n] p).1 (next^[n] p).2 = some text) ∧
      ∀ value, ¬ r.Grounded sheet (next^[n] p) value := by
    intro n
    induction n with
    | zero => exact ⟨⟨text, htext⟩, hp⟩
    | succ n ih =>
      rw [Function.iterate_succ_apply']
      exact hstays _ ih
  refine Grid.reachesCycle_of_walk (fun n => next^[n] p) (fun n => (hwalk n).1) fun n => ?_
  simp only [Function.iterate_succ_apply']
  exact hrefers _ (hwalk n)

/-! ## Evaluated tables -/

/-- A cell that ends with an error that speaks of a cycle leads to one. -/
theorem Ends.reachesCycle {text : String} {error : FormulaError} (hspeaks : r.SpeaksPlainly)
    (hmarkers : sheet.HasNoMarkers) (hshape : grid.shape = sheet.shape)
    (hshows : r.ShowsGrounded sheet grid) (h : r.Ends sheet p text) (htext : text = error.marker)
    (hnames : NamesCycle error.reason) : sheet.ReachesCycle p := by
  cases h with
  | final hfinal =>
    rcases hfinal with hgrounded | ⟨hlooped, _⟩
    · exact absurd htext ((hgrounded.blameless hspeaks hmarkers).ne_marker hnames)
    · exact hlooped.reachesCycle
  | cutOff hformula hnot =>
    rcases hformula with ⟨content, _, hcontent, _⟩
    exact reachesCycle_of_not_grounded hshape hshows hcontent fun value hvalue =>
      hnot value (Or.inl hvalue)

/-- A cell that leads to a cycle ends with an error. -/
theorem Ends.isMarker {text : String} (h : r.Ends sheet p text) (hcycle : sheet.ReachesCycle p) :
    isMarker text = true := by
  cases h with
  | final hfinal =>
    rcases hfinal with hgrounded | ⟨_, rfl⟩
    · cases hvalue : SheetMarkup.isMarker text with
      | true => rfl
      | false => exact absurd hcycle (Grid.not_reachesCycle_of_acc (hgrounded.acc_refers hvalue))
    · exact isMarker_marker _
  | cutOff _ _ => exact isMarker_marker _

/-- Cycles are reported, and nothing else is reported as a cycle. Every cell from which references lead
to a cycle ends with an error. An error that speaks of a cycle, or of a chain that is too long, is found
only in such cells; so where there is no cycle no chain is too long. -/
theorem evaluateTable_reportsCycles (maxDepth : Nat) (sheet : Grid)
    (hwritten : sheet.WrittenInBasicLetters) (hmarkers : sheet.HasNoMarkers)
    (hdepth : 1 ≤ maxDepth) :
    let evaluated := (Resolver.mk arithmetic maxDepth).evaluateTable sheet
    (∀ p : Nat × Nat, sheet.ReachesCycle p →
      ∃ text, evaluated.cell? p.1 p.2 = some text ∧ SheetMarkup.isMarker text = true) ∧
    (∀ (p : Nat × Nat) text, evaluated.cell? p.1 p.2 = some text →
      (text = FormulaError.circularReference.marker ∨
        ∃ depth, text = (FormulaError.recursionLimit depth).marker) → sheet.ReachesCycle p) ∧
    ((∀ p, ¬ Relation.TransGen sheet.Refers p p) → ∀ (p : Nat × Nat) text depth,
      evaluated.cell? p.1 p.2 = some text → text ≠ (FormulaError.recursionLimit depth).marker) := by
  intro evaluated
  rcases evaluateTable_ends (r := Resolver.mk arithmetic maxDepth) (arithmetic_yieldsText maxDepth)
    (.of_written hwritten) hdepth with ⟨hshape, hends⟩
  have hshows := Ends.showsGrounded hshape hends
  have hspeaks := arithmetic_speaksPlainly maxDepth
  have hsound : ∀ (p : Nat × Nat) text, evaluated.cell? p.1 p.2 = some text →
      (text = FormulaError.circularReference.marker ∨
        ∃ depth, text = (FormulaError.recursionLimit depth).marker) → sheet.ReachesCycle p := by
    intro p text htext hreported
    rcases hreported with hcircular | ⟨depth, hcut⟩
    · exact (hends p text htext).reachesCycle hspeaks hmarkers hshape hshows hcircular (Or.inl rfl)
    · exact (hends p text htext).reachesCycle hspeaks hmarkers hshape hshows hcut
        (Or.inr ⟨depth, rfl⟩)
  refine ⟨?_, hsound, ?_⟩
  · intro p hcycle
    rcases hcycle.exists_refers with ⟨q, ⟨content, _, hcontent, _⟩, _⟩
    rcases Grid.exists_cell?_of_shape_eq hshape.symm hcontent with ⟨text, htext⟩
    exact ⟨text, htext, (hends p text htext).isMarker hcycle⟩
  · intro hacyclic p text depth htext hcut
    rcases hsound p text htext (Or.inr ⟨depth, hcut⟩) with ⟨q, _, hloop⟩
    exact hacyclic q hloop

/-- Two cells on a cycle that is longer than the ceiling, one that leads to it and one that does not. -/
theorem evaluateTable_reportsCycles_of_cutOff :
    ((Resolver.mk arithmetic 1).evaluateTable [["=[B1]", "=[a1]", "=[A1]+1", "7"]]).cell? 0 2 =
        some "!ERROR! Cell references are nested deeper than 1 levels" ∧
      Grid.ReachesCycle [["=[B1]", "=[a1]", "=[A1]+1", "7"]] (0, 2) :=
  ⟨by decide +kernel, (evaluateTable_reportsCycles 1 [["=[B1]", "=[a1]", "=[A1]+1", "7"]]
    (by decide +kernel) (by decide +kernel) (by decide)).2.1 (0, 2)
    "!ERROR! Cell references are nested deeper than 1 levels" (by decide +kernel)
    (Or.inr ⟨1, by decide +kernel⟩)⟩

end Resolver
end SheetMarkup
