import SheetMarkup.Proofs.Expression.Result
import SheetMarkup.Proofs.Formula.Chains
import SheetMarkup.Proofs.Formula.Expansion
import SheetMarkup.Proofs.Formula.Settling

/-!
# Order independence — any order of cells ends in the same grid

The tokens of a chain are different from one another, so a chain that is longer than all tokens of a
table cannot arise. With a ceiling that leaves room for all of them nothing is ever cut off, each
visit of a cell writes its final text, and a single sweep evaluates the whole table. What is final is
fixed by the sheet, so it does not matter in which order the cells are visited, nor how often.

* `Grid.RefersWithin`, `Grid.canonicalTokens`: the tokens that the formulas of a grid refer by
* `resolve_clear`: no chain reaches a ceiling that leaves room for all tokens
* `Resolver.visit`, `Resolver.visitAll`: single cells evaluated one after another
* `visitAll_eq_evaluateTable`: they end in the evaluated table
-/

namespace SheetMarkup

/-! ## Tokens in upper case -/

def Grid.RefersWithin (grid : Grid) (tokens : List String) : Prop :=
  ∀ p, ∀ reference ∈ grid.referencesAt p, reference.canonical ∈ tokens

/-- The distinct references of a grid in upper case, the ranges of its formulas expanded. -/
def Grid.canonicalTokens (grid : Grid) : List String :=
  (grid.positions.flatMap fun p => (grid.referencesAt p).map Corner.canonical).eraseDups

theorem Grid.refersWithin_canonicalTokens (grid : Grid) :
    grid.RefersWithin grid.canonicalTokens := by
  intro p reference hreference
  have hposition := Grid.mem_positions_of_mem_referencesAt hreference
  rw [Grid.canonicalTokens, List.mem_eraseDups]
  exact List.mem_flatMap.2 ⟨p, hposition, List.mem_map_of_mem hreference⟩

/-- A text that is no formula adds no reference. -/
theorem Grid.RefersWithin.set {grid : Grid} {tokens : List String} (h : grid.RefersWithin tokens)
    {text : String} (hplain : formula? text = none) (row column : Nat) :
    (grid.set row column text).RefersWithin tokens := by
  intro p reference hreference
  apply h p
  unfold Grid.referencesAt at hreference ⊢
  cases hformula : ((grid.set row column text).cell? p.1 p.2).bind formula? with
  | none => simp [hformula] at hreference
  | some formula =>
    rcases Option.bind_eq_some_iff.1 hformula with ⟨found, hfound, hfound'⟩
    -- The written text is no formula, so the formula was there before.
    rcases Grid.cell?_set hfound with ⟨_, rfl⟩ | hold
    · rw [hplain] at hfound'
      cases hfound'
    · simp only [hformula] at hreference
      rw [Grid.referencesIn_congr (Grid.shape_set grid row column text)] at hreference
      simpa [hold, hfound'] using hreference

/-- The formulas that are left in a grid are those of the sheet. -/
theorem Grid.RefersWithin.of_partlySolved {sheet grid : Grid} {tokens : List String}
    (h : sheet.RefersWithin tokens) (hgrid : sheet.PartlySolved grid) : grid.RefersWithin tokens :=
  fun p _ hreference => h p _ (hgrid.mem_referencesAt hreference)

namespace Resolver

variable {r : Resolver} {sheet grid : Grid} {p : Nat × Nat} {chain tokens : List String}

/-! ## Room for every token -/

/-- A result that was not cut off, with a grid that refers within some tokens. -/
structure Clear (tokens : List String) (result : Resolution) : Prop where
  not_cutOff : ¬ IsCutOff result.outcome
  plain : formula? (cellText result.outcome) = none
  within : result.grid.RefersWithin tokens

/-- No chain reaches a ceiling that leaves room for every token. -/
theorem resolve_clear (hyields : r.YieldsText) (hroom : tokens.length ≤ r.maxDepth)
    (hchain : DrawnFrom tokens chain) (hwithin : grid.RefersWithin tokens) {content : String}
    (hcontent : grid.cell? p.1 p.2 = some content) : Clear tokens (r.resolve chain content grid) := by
  have hinside : grid.RefersInside tokens :=
    fun p reference hreference _ _ => hwithin p reference hreference
  have hlevels : tokens.length < chain.length + (tokens.length + 1) := by omega
  have hends := recordContent_ends hyields hinside (Grid.PartlySolved.refl grid) hchain hlevels hcontent
  have hfootprint := resolve_footprint hyields chain (Grid.PartlySolved.refl grid) hcontent
  exact ⟨hends.not_cutOff hroom, hfootprint.plain, hwithin.of_partlySolved hfootprint.solved⟩

/-! ## Visits -/

/-- A cell evaluated in place; nothing happens outside the grid. -/
def visit (r : Resolver) (grid : Grid) (p : Nat × Nat) : Grid :=
  match r.evaluateAt p.1 p.2 grid with
  | some (_, next) => next
  | none => grid

def visitAll (r : Resolver) (visits : List (Nat × Nat)) (grid : Grid) : Grid :=
  visits.foldl r.visit grid

/-- A visit with enough room keeps the grid underway, leaves a final text, and is what a sweep does
with the cell. -/
structure Visited (r : Resolver) (sheet : Grid) (tokens : List String) (p : Nat × Nat)
    (grid : Grid) : Prop where
  underway : r.Underway sheet (r.visit grid p)
  keeps : grid.Keeps (r.visit grid p)
  within : (r.visit grid p).RefersWithin tokens
  plain : ∀ text, (r.visit grid p).cell? p.1 p.2 = some text → formula? text = none
  settle_eq : r.settle p.1 p.2 grid = (true, r.visit grid p)

theorem visited (hyields : r.YieldsText) (hbasic : sheet.HasBasicReferences)
    (hroom : tokens.length ≤ r.maxDepth) (hgrid : r.Underway sheet grid)
    (hwithin : grid.RefersWithin tokens) (p : Nat × Nat) : r.Visited sheet tokens p grid := by
  cases hcontent : grid.cell? p.1 p.2 with
  | none =>
    have hvisit : r.visit grid p = grid := by simp [visit, evaluateAt, hcontent]
    have hsettle : r.settle p.1 p.2 grid = (true, grid) := by simp [settle, hcontent]
    exact ⟨by rwa [hvisit], by rw [hvisit]; exact Grid.Keeps.refl grid, by rwa [hvisit],
      by simp [hvisit, hcontent], by rw [hvisit, hsettle]⟩
  | some content =>
    have hsound := resolve_sound hyields hbasic (Trail.start p) (Nat.zero_le _) hgrid hcontent
    -- The empty chain leaves room for all tokens, so the result is not cut off and is the last one.
    have hclear : Clear tokens (r.resolve [] content grid) :=
      resolve_clear hyields hroom (.nil tokens) hwithin hcontent
    have hfinal := hsound.final hclear.not_cutOff
    have hset := hsound.underway.set hfinal
    have hvisit : r.visit grid p = (r.resolve [] content grid).grid.set p.1 p.2
        (cellText (r.resolve [] content grid).outcome) := by
      simp [visit, evaluateAt, evaluateContent, hcontent]
    refine ⟨?_, ?_, ?_, ?_, ?_⟩
    · rw [hvisit]
      exact hset.1
    · rw [hvisit]
      exact hsound.keeps.trans hset.2
    · rw [hvisit]
      exact hclear.within.set hclear.plain p.1 p.2
    · intro text htext
      rw [hvisit] at htext
      rcases Grid.cell?_set htext with ⟨_, rfl⟩ | hold
      · exact hclear.plain
      · rw [Grid.cell?_set_self _ hold] at htext
        cases htext
        exact hclear.plain
    · rw [hvisit]
      simp only [settle, hcontent]
      split
      · rename_i hresolve
        rw [hresolve] at hclear
        exact absurd ⟨_, rfl⟩ hclear.not_cutOff
      · rename_i hresolve
        rw [hresolve]

/-- Visits leave a final text in each cell that was visited. -/
theorem visitAll_sound (hyields : r.YieldsText) (hbasic : sheet.HasBasicReferences)
    (hroom : tokens.length ≤ r.maxDepth) (visits : List (Nat × Nat)) (hgrid : r.Underway sheet grid)
    (hwithin : grid.RefersWithin tokens) :
    r.Underway sheet (r.visitAll visits grid) ∧ grid.Keeps (r.visitAll visits grid) ∧
      (∀ p ∈ visits, ∀ text, (r.visitAll visits grid).cell? p.1 p.2 = some text →
        r.Final sheet p text) ∧
      r.sweep visits grid = ([], r.visitAll visits grid) := by
  induction visits generalizing grid with
  | nil => exact ⟨hgrid, Grid.Keeps.refl grid, by simp, rfl⟩
  | cons first rest ih =>
    have hfirst := visited hyields hbasic hroom hgrid hwithin first
    rcases ih hfirst.underway hfirst.within with ⟨hlast, hkeeps, hfinal, hsweep⟩
    refine ⟨hlast, hfirst.keeps.trans hkeeps, ?_, ?_⟩
    · intro p hp text htext
      rcases List.mem_cons.1 hp with rfl | hp
      · -- The text that the visit left is kept by the visits after it.
        have hinside := hfirst.underway.inside_iff.2 (hlast.inside_iff.1 ⟨text, htext⟩)
        rcases hinside with ⟨found, hfound⟩
        have hplain := hfirst.plain found hfound
        have hkept := hkeeps p found hfound hplain
        rw [show r.visitAll (p :: rest) grid = r.visitAll rest (r.visit grid p) from rfl,
          hkept] at htext
        cases htext
        exact hfirst.underway.final hfound hplain
      · exact hfinal p hp text htext
    · -- Neither the first cell nor the others are kept.
      simp only [sweep, hfirst.settle_eq, hsweep, if_true]
      rfl

/-- With room for every token a single sweep evaluates the table. -/
theorem evaluateTable_eq_visitAll (hyields : r.YieldsText) (hbasic : sheet.HasBasicReferences)
    (hroom : sheet.canonicalTokens.length ≤ r.maxDepth) :
    r.evaluateTable sheet = r.visitAll sheet.positions sheet := by
  have hsweep := (visitAll_sound hyields hbasic hroom sheet.positions (Underway.refl r sheet)
    sheet.refersWithin_canonicalTokens).2.2.2
  simp [evaluateTable, hsweep, sweepAgain]

/-- Order independence. With a ceiling that leaves room for every token, evaluating the cells in any
order, as long as each is visited, ends in the evaluated table. -/
theorem visitAll_eq_evaluateTable (r : Resolver) (sheet : Grid) (visits : List (Nat × Nat))
    (hyields : r.YieldsText) (hwritten : sheet.WrittenInBasicLetters)
    (hroom : sheet.canonicalTokens.length ≤ r.maxDepth)
    (hvisits : ∀ p ∈ sheet.positions, p ∈ visits) :
    r.visitAll visits sheet = r.evaluateTable sheet := by
  have hbasic := Grid.HasBasicReferences.of_written hwritten
  have hsound := fun visits => visitAll_sound hyields hbasic hroom visits (Underway.refl r sheet)
    sheet.refersWithin_canonicalTokens
  rcases hsound visits with ⟨hgrid, _, hfinal, _⟩
  rcases hsound sheet.positions with ⟨htable, _, hfinal', _⟩
  rw [evaluateTable_eq_visitAll hyields hbasic hroom]
  apply Grid.ext_cell? (hgrid.shape.trans htable.shape.symm)
  intro row column text htext
  have hposition : (row, column) ∈ sheet.positions :=
    Grid.mem_positions_iff.2 (hgrid.inside_iff (p := (row, column)) |>.1 ⟨text, htext⟩)
  rcases htable.inside_iff (p := (row, column)) |>.2 (Grid.mem_positions_iff.1 hposition) with
    ⟨found, hfound⟩
  -- Both are final texts of the same cell.
  have hsame : found = text :=
    (hfinal' (row, column) hposition found hfound).unique
      (hfinal (row, column) (hvisits _ hposition) text htext)
  rw [← hsame]
  exact hfound

/-- A cycle entered from its second cell, which is visited twice. -/
theorem visitAll_eq_evaluateTable_of_cycle :
    (Resolver.mk arithmetic 2).visitAll [(0, 1), (0, 0), (0, 1)] [["=[B1]", "=[a1]"]] =
        [["!ERROR! Circular Reference", "!ERROR! Circular Reference"]] ∧
      (Resolver.mk arithmetic 2).visitAll [(0, 1), (0, 0), (0, 1)] [["=[B1]", "=[a1]"]] =
        (Resolver.mk arithmetic 2).evaluateTable [["=[B1]", "=[a1]"]] :=
  ⟨by decide +kernel, visitAll_eq_evaluateTable (Resolver.mk arithmetic 2) [["=[B1]", "=[a1]"]]
    [(0, 1), (0, 0), (0, 1)] (arithmetic_yieldsText 2) (by decide +kernel) (by decide +kernel)
    (by decide +kernel)⟩

end Resolver
end SheetMarkup
