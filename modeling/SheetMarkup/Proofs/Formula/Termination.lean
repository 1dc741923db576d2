import SheetMarkup.Proofs.Formula.Chains
import SheetMarkup.Proofs.Formula.OrderIndependence
import SheetMarkup.Proofs.Formula.Sweep

/-!
# Termination — evaluation within the references of the sheet

Cells are resolved one after another, each from an empty chain. A sweep goes through finitely many of them, and
sweeps are repeated only while they leave fewer cells than they found. Each resolution ends within one level more
than there are references to cells in the sheet, on the sheet itself and on every grid that is left behind by
what was asked for before. So whatever a resolver is asked for ends, and the ceiling has no part in that.

* `Resolver.recordTable`, `Resolver.recordCell`: evaluation with a record, each cell within given levels
* `recordContent_leaves`, `settle_leaves`, `sweep_leaves`, `sweepAgain_leaves`: what each part comes to and leaves
* `evaluateTable_leaves`, `evaluateAt_leaves`: all cells, and a single one
* `Request`, `Resolver.serveAll`: what a resolver may be asked for
* `recordAll_bounded`: any number of requests, one after another
-/

namespace SheetMarkup
namespace Resolver

/-! ## Evaluation with a record -/

def recordSettle (r : Resolver) (levels row column : Nat) (grid : Grid) : Recorder (Bool × Grid) := do
  match grid.cell? row column with
  | none => pure (true, grid)
  | some content =>
    match ← r.recordContent levels [] content grid with
    | ⟨.error (.recursionLimit _), grid⟩ => pure (false, grid)
    | ⟨outcome, grid⟩ => pure (true, grid.set row column (cellText outcome))

def recordSweep (r : Resolver) (levels : Nat) :
    List (Nat × Nat) → Grid → Recorder (List (Nat × Nat) × Grid)
  | [], grid => pure ([], grid)
  | (row, column) :: rest, grid => do
    let (settled, grid) ← r.recordSettle levels row column grid
    let (kept, grid) ← r.recordSweep levels rest grid
    pure (if settled then kept else (row, column) :: kept, grid)

/-- Sweeps as long as there are positions left and each sweep leaves fewer of them than it found. -/
def recordSweeps (r : Resolver) (levels : Nat) (positions : List (Nat × Nat)) (grid : Grid) :
    Recorder (List (Nat × Nat) × Grid) := do
  if positions = [] then pure (positions, grid)
  else
    let (kept, grid) ← r.recordSweep levels positions grid
    if kept.length < positions.length then r.recordSweeps levels kept grid else pure (kept, grid)
termination_by positions.length

def recordTable (r : Resolver) (levels : Nat) (grid : Grid) : Recorder Grid := do
  let (kept, grid) ← r.recordSweep levels grid.positions grid
  let (kept, grid) ← r.recordSweeps levels kept grid
  pure <| kept.foldl
    (fun grid (row, column) => grid.set row column (FormulaError.recursionLimit r.maxDepth).marker) grid

def recordCell (r : Resolver) (levels row column : Nat) (grid : Grid) :
    Recorder (Option (String × Grid)) := do
  match grid.cell? row column with
  | none => pure none
  | some content =>
    let ⟨outcome, grid⟩ ← r.recordContent levels [] content grid
    pure (some (cellText outcome, grid.set row column (cellText outcome)))

/-! ## Parts of an evaluation -/

section Parts

variable {r : Resolver} {sheet grid : Grid} {tokens : List String} {levels : Nat}

/-- A computation ends with a result, after bounded attempts, and leaves a grid that is partly solved. -/
structure Leaves {α : Type} (r : Resolver) (tokens : List String) (sheet : Grid) (left : α → Grid)
    (run : Recorder α) (result : α) : Prop where
  runs : Recorder.Runs (Attempt.Bounded r tokens) run result
  solved : sheet.PartlySolved (left result)

variable (hyields : r.YieldsText) (hinside : sheet.RefersInside tokens) (hlevels : tokens.length < levels)
include hyields hinside hlevels

theorem recordContent_leaves (hgrid : sheet.PartlySolved grid) {p : Nat × Nat} {content : String}
    (hcontent : grid.cell? p.1 p.2 = some content) :
    r.Leaves tokens sheet (fun result => result.grid.set p.1 p.2 (cellText result.outcome))
      (r.recordContent levels [] content grid) (r.resolve [] content grid) := by
  have hroom : tokens.length < ([] : List String).length + levels := by simpa using hlevels
  have hends := recordContent_ends hyields hinside hgrid (.nil tokens) hroom hcontent
  have hfootprint := resolve_footprint hyields [] hgrid hcontent
  exact ⟨hends.runs, hfootprint.solved.set hfootprint.plain hfootprint.terminates⟩

theorem settle_leaves (hgrid : sheet.PartlySolved grid) (p : Nat × Nat) :
    r.Leaves tokens sheet Prod.snd (r.recordSettle levels p.1 p.2 grid) (r.settle p.1 p.2 grid) := by
  unfold recordSettle settle
  cases hcontent : grid.cell? p.1 p.2 with
  | none => exact ⟨.pure _ _, hgrid⟩
  | some content =>
    have hleaves := recordContent_leaves hyields hinside hlevels hgrid hcontent
    have hfootprint := resolve_footprint hyields [] hgrid hcontent
    dsimp only
    generalize r.resolve [] content grid = result at hleaves hfootprint
    refine ⟨hleaves.runs.bind ?_, ?_⟩
    · rcases result with ⟨error | value, next⟩
      · cases error <;> exact .pure _ _
      · exact .pure _ _
    · -- A cell that was cut off is not written, but cells it refers to may have been.
      split
      · exact hfootprint.solved
      · exact hleaves.solved

theorem sweep_leaves (hgrid : sheet.PartlySolved grid) (positions : List (Nat × Nat)) :
    r.Leaves tokens sheet Prod.snd (r.recordSweep levels positions grid) (r.sweep positions grid) := by
  induction positions generalizing grid with
  | nil => exact ⟨.pure _ _, hgrid⟩
  | cons first rest ih =>
    have hfirst := settle_leaves hyields hinside hlevels hgrid first
    have hrest := ih hfirst.solved
    exact ⟨hfirst.runs.bind (hrest.runs.bind (.pure _ _)), hrest.solved⟩

/-- There are rounds enough for all sweeps that leave fewer positions than they find. -/
theorem sweepAgain_leaves (hgrid : sheet.PartlySolved grid) {rounds : Nat}
    {positions : List (Nat × Nat)} (hrounds : positions.length ≤ rounds) :
    r.Leaves tokens sheet Prod.snd (r.recordSweeps levels positions grid)
      (r.sweepAgain rounds positions grid) := by
  induction rounds generalizing positions grid with
  | zero =>
    have hnil : positions = [] := List.eq_nil_of_length_eq_zero (by omega)
    rw [recordSweeps, if_pos hnil]
    exact ⟨.pure _ _, hgrid⟩
  | succ rounds ih =>
    rw [recordSweeps]
    by_cases hnil : positions = []
    · subst hnil
      exact ⟨.pure _ _, hgrid⟩
    · have hsweep := sweep_leaves hyields hinside hlevels hgrid positions
      have hle := (r.sweep_sublist positions grid).length_le
      rw [if_neg hnil, sweepAgain]
      generalize r.sweep positions grid = swept at hsweep hle ⊢
      rcases swept with ⟨kept, next⟩
      dsimp only at hle ⊢
      -- Both stop at a sweep that settles nothing; any other one leaves fewer positions than there are rounds.
      rcases Nat.eq_or_lt_of_le hle with hsame | hfewer
      · rw [if_pos hsame]
        refine ⟨hsweep.runs.bind ?_, hsweep.solved⟩
        dsimp only
        rw [if_neg (Nat.not_lt_of_le (Nat.le_of_eq hsame.symm))]
        exact .pure _ _
      · have hrest := ih hsweep.solved (Nat.le_of_lt_succ (Nat.lt_of_lt_of_le hfewer hrounds))
        rw [if_neg (Nat.ne_of_lt hfewer)]
        refine ⟨hsweep.runs.bind ?_, hrest.solved⟩
        dsimp only
        rw [if_pos hfewer]
        exact hrest.runs

omit hyields hinside hlevels in
/-- Markers written over cells leave a grid that is partly solved. -/
theorem solved_foldl_marker (hgrid : sheet.PartlySolved grid) (error : FormulaError)
    (positions : List (Nat × Nat)) :
    sheet.PartlySolved
      (positions.foldl (fun grid (row, column) => grid.set row column error.marker) grid) := by
  induction positions generalizing grid with
  | nil => exact hgrid
  | cons first rest ih =>
    refine ih (hgrid.set (p := first) (formula?_marker error) fun hvalue => ?_)
    rw [isMarker_marker] at hvalue
    cases hvalue

theorem evaluateTable_leaves (hgrid : sheet.PartlySolved grid) :
    r.Leaves tokens sheet id (r.recordTable levels grid) (r.evaluateTable grid) := by
  have hfirst := sweep_leaves hyields hinside hlevels hgrid grid.positions
  have hagain := sweepAgain_leaves hyields hinside hlevels hfirst.solved
    (Nat.le_refl (r.sweep grid.positions grid).1.length)
  exact ⟨hfirst.runs.bind (hagain.runs.bind (.pure _ _)), solved_foldl_marker hagain.solved _ _⟩

theorem evaluateAt_leaves (hgrid : sheet.PartlySolved grid) (row column : Nat) :
    Recorder.Runs (Attempt.Bounded r tokens) (r.recordCell levels row column grid)
        (r.evaluateAt row column grid) ∧
      sheet.PartlySolved (r.visit grid (row, column)) := by
  unfold recordCell visit evaluateAt
  cases hcontent : grid.cell? row column with
  | none => exact ⟨.pure _ _, by simpa [hcontent] using hgrid⟩
  | some content =>
    have hleaves := recordContent_leaves hyields hinside hlevels hgrid (p := (row, column)) hcontent
    refine ⟨hleaves.runs.bind (.pure _ _), ?_⟩
    simp only [Option.map_some, evaluateContent]
    exact hleaves.solved

end Parts

/-! ## Requests -/

inductive Request where
  | table
  | cell (row column : Nat)
  deriving DecidableEq, Repr

def serve (r : Resolver) (grid : Grid) : Request → Grid
  | .table => r.evaluateTable grid
  | .cell row column => r.visit grid (row, column)

def serveAll (r : Resolver) (requests : List Request) (grid : Grid) : Grid :=
  requests.foldl r.serve grid

def recordRequest (r : Resolver) (levels : Nat) (grid : Grid) : Request → Recorder Grid
  | .table => r.recordTable levels grid
  | .cell row column => do
    match ← r.recordCell levels row column grid with
    | some (_, next) => pure next
    | none => pure grid

def recordAll (r : Resolver) (levels : Nat) (requests : List Request) (grid : Grid) : Recorder Grid :=
  requests.foldlM (r.recordRequest levels) grid

section Requests

variable {r : Resolver} {sheet grid : Grid} {tokens : List String} {levels : Nat}
  (hyields : r.YieldsText) (hinside : sheet.RefersInside tokens) (hlevels : tokens.length < levels)
include hyields hinside hlevels

theorem serve_leaves (hgrid : sheet.PartlySolved grid) (request : Request) :
    r.Leaves tokens sheet id (r.recordRequest levels grid request) (r.serve grid request) := by
  cases request with
  | table => exact evaluateTable_leaves hyields hinside hlevels hgrid
  | cell row column =>
    rcases evaluateAt_leaves hyields hinside hlevels hgrid row column with ⟨hruns, hsolved⟩
    refine ⟨hruns.bind ?_, hsolved⟩
    simp only [serve, visit]
    cases r.evaluateAt row column grid <;> exact .pure _ _

theorem serveAll_leaves (hgrid : sheet.PartlySolved grid) (requests : List Request) :
    r.Leaves tokens sheet id (r.recordAll levels requests grid) (r.serveAll requests grid) := by
  induction requests generalizing grid with
  | nil => exact ⟨.pure _ _, hgrid⟩
  | cons first rest ih =>
    have hfirst := serve_leaves hyields hinside hlevels hgrid first
    have hrest := ih hfirst.solved
    refine ⟨?_, hrest.solved⟩
    rw [recordAll, List.foldlM_cons]
    exact hfirst.runs.bind hrest.runs

end Requests

/-- The recursion is bounded by the references of the sheet. Whatever a resolver is asked for and whatever its
ceiling is, evaluation ends within one level more than there are distinct references to cells in the sheet. On
the way no chain holds a token twice or is longer than that number of references, and no resolution is cut off
by a ceiling that leaves room for all of them. -/
theorem recordAll_bounded (r : Resolver) (sheet : Grid) (requests : List Request)
    (hyields : r.YieldsText) {levels : Nat} (hlevels : sheet.insideTokens.length < levels) :
    ∃ attempts, (r.recordAll levels requests sheet).run [] =
        some (r.serveAll requests sheet, attempts) ∧
      ∀ attempt ∈ attempts, attempt.chain.Nodup ∧
        (∀ token ∈ attempt.chain, token ∈ sheet.insideTokens) ∧
        attempt.chain.length ≤ sheet.insideTokens.length ∧
        (sheet.insideTokens.length ≤ r.maxDepth → ¬ IsCutOff attempt.outcome) := by
  have hleaves := serveAll_leaves hyields sheet.refersInside_insideTokens hlevels
    (Grid.PartlySolved.refl sheet) requests
  rcases hleaves.runs with ⟨attempts, hbounded, hrun⟩
  refine ⟨attempts, hrun [], fun attempt hattempt => ?_⟩
  have hbound := hbounded attempt hattempt
  exact ⟨hbound.drawn.nodup, hbound.drawn.mem, hbound.drawn.length_le, hbound.not_cutOff⟩

/-- A cycle whose cells are referred to in several spellings, with a ceiling that leaves room for just those. -/
theorem recordAll_bounded_of_spellings :
    let r := Resolver.mk arithmetic 3
    let sheet : Grid := [["=[B1]+[A01]", "=[a1:A2]", "=[A1]"]]
    let requests := [.cell 0 1, .table, .cell 4 0]
    sheet.insideTokens = ["[B1]", "[A01]", "[A1]"] ∧
      r.serveAll requests sheet = [["!ERROR! Circular Reference", "!ERROR! Circular Reference",
        "!ERROR! Circular Reference"]] ∧
      ∃ attempts, (r.recordAll 4 requests sheet).run [] = some (r.serveAll requests sheet, attempts) ∧
        ∀ attempt ∈ attempts, attempt.chain.Nodup ∧ attempt.chain.length ≤ 3 ∧
          ¬ IsCutOff attempt.outcome := by
  intro r sheet requests
  have htokens : sheet.insideTokens = ["[B1]", "[A01]", "[A1]"] := by decide +kernel
  refine ⟨htokens, by decide +kernel, ?_⟩
  have hlevels : sheet.insideTokens.length < 4 := by
    rw [htokens]
    decide
  rcases recordAll_bounded r sheet requests (arithmetic_yieldsText 3) hlevels with
    ⟨attempts, hrun, hbounded⟩
  refine ⟨attempts, hrun, fun attempt hattempt => ?_⟩
  rcases hbounded attempt hattempt with ⟨hnodup, _, hlength, hcut⟩
  rw [htokens] at hlength hcut
  exact ⟨hnodup, hlength, hcut (by decide)⟩

end Resolver
end SheetMarkup
