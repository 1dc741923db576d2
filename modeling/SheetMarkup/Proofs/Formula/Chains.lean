import SheetMarkup.Proofs.Formula.Ceiling
import SheetMarkup.Proofs.Formula.Footprint

/-!
# Chains — as long as there are references to follow

The definition of resolution counts the levels that a chain has left below the ceiling. Here the levels are
given, no result comes of a recursion that needs more of them, and each resolution on the way is noted with the
chain it stands under. A token joins a chain only if it is not there yet and names a cell, and the formulas met
on the way are those of the sheet. So a chain is drawn without repetition from the references of the sheet that
name cells, however high the ceiling is: one level more than there are of them is enough, and no chain reaches a
ceiling that leaves room for all of them.

* `Recorder`, `Recorder.Runs`: computations that may fail to end, and what they note if they end
* `Resolver.recordContent`: resolution within given levels, with a record of all resolutions on the way
* `Grid.RefersInside`, `DrawnFrom`: where the tokens of a chain come from
* `Attempt.Bounded`: a resolution under such a chain, cut off only where there is no room
* `Resolver.recordContent_ends`: it ends as `Resolver.resolve` does, and all resolutions on the way are bounded
-/

namespace SheetMarkup

/-! ## Records -/

/-- One resolution of a cell content: the chain that it stands under, and what it comes to. -/
structure Attempt where
  chain : List String
  outcome : Except FormulaError String

/-- A computation that notes attempts as it goes, and has no result if it needs more levels than it has. -/
abbrev Recorder (α : Type) := StateT (List Attempt) Option α

namespace Recorder

variable {α β : Type} {ok : Attempt → Prop} {run : Recorder α} {next : α → Recorder β} {a : α} {b : β}

def note (attempt : Attempt) : Recorder Unit :=
  modify (· ++ [attempt])

/-- The computation ends with a result, and each attempt that it notes has a property. -/
def Runs (ok : Attempt → Prop) (run : Recorder α) (result : α) : Prop :=
  ∃ attempts : List Attempt, (∀ attempt ∈ attempts, ok attempt) ∧
    ∀ noted, run.run noted = some (result, noted ++ attempts)

theorem Runs.pure (ok : Attempt → Prop) (a : α) : Runs ok (Pure.pure a) a :=
  ⟨[], by simp, fun noted => by rw [List.append_nil]; rfl⟩

theorem Runs.note {attempt : Attempt} (h : ok attempt) : Runs ok (Recorder.note attempt) () :=
  ⟨[attempt], by simpa using h, fun _ => rfl⟩

theorem Runs.bind (h : Runs ok run a) (hnext : Runs ok (next a) b) : Runs ok (run >>= next) b := by
  rcases h with ⟨attempts, hok, hrun⟩
  rcases hnext with ⟨later, hok', hrun'⟩
  refine ⟨attempts ++ later, ?_, fun noted => ?_⟩
  · intro attempt hattempt
    rcases List.mem_append.1 hattempt with hmem | hmem
    · exact hok attempt hmem
    · exact hok' attempt hmem
  · rw [StateT.run_bind, hrun, ← List.append_assoc]
    exact hrun' _

end Recorder

namespace Resolver

def noted (chain : List String) (result : Resolution) : Recorder Resolution := do
  Recorder.note ⟨chain, result.outcome⟩
  pure result

abbrev RecordedDescent := (chain : List String) → (content : String) → Grid → Recorder Resolution

/-- An expression with references replaced by their values, as `Resolver.substitute` gives it. -/
def recordReferences (r : Resolver) (descend : RecordedDescent) (chain : List String) :
    List Corner → List Char → Grid → Recorder (Except FormulaError (List Char) × Grid)
  | [], expression, grid => pure (.ok expression, grid)
  | reference :: rest, expression, grid =>
    match r.target chain reference grid with
    | .error error => pure (.error error, grid)
    | .ok (row, column, content) => do
      let result ← descend (chain ++ [reference.canonical]) content grid
      match result.writtenTo row column with
      | ⟨.error error, grid⟩ => pure (.error error, grid)
      | ⟨.ok value, grid⟩ =>
        r.recordReferences descend chain rest
          (Text.replaceAll reference.token value.toList expression) grid

def recordWith (r : Resolver) (descend : RecordedDescent) (chain : List String) (content : String)
    (grid : Grid) : Recorder Resolution :=
  match formula? content with
  | none => noted chain ⟨.ok content, grid⟩
  | some formula =>
    match prepare grid formula with
    | .error error => noted chain ⟨.error error, grid⟩
    | .ok expression => do
      match ← r.recordReferences descend chain (references expression) expression grid with
      | (.error error, grid) => noted chain ⟨.error error, grid⟩
      | (.ok expression, grid) => noted chain ⟨r.compute expression, grid⟩

/-- The result of a cell content as `Resolver.resolve` gives it, but in given levels: one for this content, and
the others for what it refers to. -/
def recordContent (r : Resolver) : (levels : Nat) → RecordedDescent
  | 0 => fun _ _ _ => failure
  | levels + 1 => r.recordWith (r.recordContent levels)

end Resolver

/-! ## Tokens -/

/-- There are references only in cells. -/
theorem Grid.mem_positions_of_mem_referencesAt {grid : Grid} {p : Nat × Nat} {reference : Corner}
    (h : reference ∈ grid.referencesAt p) : p ∈ grid.positions := by
  cases hformula : (grid.cell? p.1 p.2).bind formula? with
  | none => simp [Grid.referencesAt, hformula] at h
  | some formula =>
    rcases Option.bind_eq_some_iff.1 hformula with ⟨text, htext, _⟩
    exact Grid.mem_positions_iff.2 ⟨text, htext⟩

/-- The formulas that are left in a grid are those of the sheet, and so are their references. -/
theorem Grid.PartlySolved.mem_referencesAt {sheet grid : Grid} {p : Nat × Nat} {reference : Corner}
    (h : sheet.PartlySolved grid) (hreference : reference ∈ grid.referencesAt p) :
    reference ∈ sheet.referencesAt p := by
  cases hformula : (grid.cell? p.1 p.2).bind formula? with
  | none => simp [Grid.referencesAt, hformula] at hreference
  | some formula =>
    rcases Option.bind_eq_some_iff.1 hformula with ⟨text, htext, hformula'⟩
    rw [Grid.referencesAt_of_formula htext hformula', Grid.referencesIn_congr h.shape] at hreference
    rwa [Grid.referencesAt_of_formula (h.formulas p text formula htext hformula') hformula']

def Grid.isInside (grid : Grid) (reference : Corner) : Bool :=
  (reference.position?.bind fun q => grid.cell? q.1 q.2).isSome

/-- The distinct references of a grid that name cells of it, in upper case, the ranges of its formulas
expanded. -/
def Grid.insideTokens (grid : Grid) : List String :=
  (grid.positions.flatMap fun p =>
    ((grid.referencesAt p).filter grid.isInside).map Corner.canonical).eraseDups

/-- The references of a grid that name cells of it are among given tokens, in upper case. -/
def Grid.RefersInside (grid : Grid) (tokens : List String) : Prop :=
  ∀ p, ∀ reference ∈ grid.referencesAt p, ∀ q, grid.Targets reference q → reference.canonical ∈ tokens

theorem Grid.refersInside_insideTokens (grid : Grid) : grid.RefersInside grid.insideTokens := by
  intro p reference hreference q htargets
  rcases htargets with ⟨hposition, text, htext⟩
  rw [Grid.insideTokens, List.mem_eraseDups]
  refine List.mem_flatMap.2 ⟨p, Grid.mem_positions_of_mem_referencesAt hreference, ?_⟩
  refine List.mem_map_of_mem (List.mem_filter.2 ⟨hreference, ?_⟩)
  simp [Grid.isInside, hposition, htext]

/-- A chain of tokens that are different from one another, all of them among given ones. -/
structure DrawnFrom (tokens chain : List String) : Prop where
  nodup : chain.Nodup
  mem : ∀ token ∈ chain, token ∈ tokens

namespace DrawnFrom

variable {tokens chain : List String} {token : String}

theorem nil (tokens : List String) : DrawnFrom tokens [] :=
  ⟨List.nodup_nil, by simp⟩

theorem length_le (h : DrawnFrom tokens chain) : chain.length ≤ tokens.length :=
  h.nodup.length_le_of_subset h.mem

theorem append (h : DrawnFrom tokens chain) (hmem : token ∈ tokens) (hnot : token ∉ chain) :
    DrawnFrom tokens (chain ++ [token]) where
  nodup := by
    rw [List.nodup_append]
    refine ⟨h.nodup, by simp, fun t ht u hu => ?_⟩
    rw [List.mem_singleton.1 hu]
    rintro rfl
    exact hnot ht
  mem t ht := by
    rcases List.mem_append.1 ht with ht | ht
    · exact h.mem t ht
    · rw [List.mem_singleton.1 ht]
      exact hmem

/-- A token that is not in a chain leaves the chain room. -/
theorem length_lt (h : DrawnFrom tokens chain) (hmem : token ∈ tokens) (hnot : token ∉ chain) :
    chain.length < tokens.length := by
  have hlonger := (h.append hmem hnot).length_le
  simp only [List.length_append, List.length_singleton] at hlonger
  omega

end DrawnFrom

/-- A resolution under a chain drawn from given tokens, which is not cut off below a ceiling that leaves room
for all of them. -/
structure Attempt.Bounded (r : Resolver) (tokens : List String) (attempt : Attempt) : Prop where
  drawn : DrawnFrom tokens attempt.chain
  not_cutOff : tokens.length ≤ r.maxDepth → ¬ Resolver.IsCutOff attempt.outcome

namespace Resolver

variable {r : Resolver} {sheet grid : Grid} {p : Nat × Nat} {tokens chain : List String}

/-! ## Targets -/

theorem target_eq_ok {reference : Corner} {row column : Nat} {content : String}
    (h : r.target chain reference grid = .ok (row, column, content)) :
    reference.canonical ∉ chain ∧ reference.position? = some (row, column) ∧
      grid.cell? row column = some content := by
  unfold target at h
  split at h
  · cases h
  · rename_i hmem
    split at h
    · cases h
    · rename_i cell hcell
      split at h
      · cases h
      · rcases Option.bind_eq_some_iff.1 hcell with ⟨q, hposition, hmap⟩
        rcases Option.map_eq_some_iff.1 hmap with ⟨found, hfound, rfl⟩
        cases h
        exact ⟨by simpa using hmem, hposition, hfound⟩

/-- A chain is cut off at a reference that names a cell and is not in the chain. -/
theorem exists_cell_of_target_cutOff {reference : Corner}
    (h : IsCutOff (r.target chain reference grid)) :
    reference.canonical ∉ chain ∧ r.maxDepth ≤ chain.length ∧
      ∃ q content, reference.position? = some q ∧ grid.cell? q.1 q.2 = some content := by
  rcases h with ⟨depth, h⟩
  unfold target at h
  split at h
  · cases h
  · rename_i hmem
    split at h
    · cases h
    · rename_i cell hcell
      split at h
      · rename_i hceiling
        rcases Option.bind_eq_some_iff.1 hcell with ⟨q, hposition, hmap⟩
        rcases Option.map_eq_some_iff.1 hmap with ⟨content, hcontent, _⟩
        exact ⟨by simpa using hmem, hceiling, q, content, hposition, hcontent⟩
      · cases h

/-! ## Bounded resolutions -/

/-- A failure is passed on from a reference to its formula, whatever the two would have come to. -/
theorem IsCutOff.error {α β : Type} {error : FormulaError}
    (h : IsCutOff (.error error : Except FormulaError α)) :
    IsCutOff (.error error : Except FormulaError β) := by
  rcases h with ⟨depth, h⟩
  cases h
  exact ⟨depth, rfl⟩

/-- A computation ends with a result after bounded attempts, and the result is not cut off if there is room for
all tokens. -/
structure EndsBounded {α β : Type} (r : Resolver) (tokens : List String)
    (outcome : α → Except FormulaError β) (run : Recorder α) (result : α) : Prop where
  runs : Recorder.Runs (Attempt.Bounded r tokens) run result
  not_cutOff : tokens.length ≤ r.maxDepth → ¬ IsCutOff (outcome result)

theorem EndsBounded.noted {result : Resolution} (hchain : DrawnFrom tokens chain)
    (hcut : tokens.length ≤ r.maxDepth → ¬ IsCutOff result.outcome) :
    r.EndsBounded tokens Resolution.outcome (noted chain result) result :=
  ⟨.bind (.note ⟨hchain, hcut⟩) (.pure _ result), hcut⟩

/-- Under a chain that is longer by one token, each cell is resolved as `Resolver.resolve` does it. -/
def EndsBelow (r : Resolver) (sheet : Grid) (tokens chain : List String) (descend : RecordedDescent) :
    Prop :=
  ∀ token (q : Nat × Nat) content grid, DrawnFrom tokens (chain ++ [token]) →
    sheet.PartlySolved grid → grid.cell? q.1 q.2 = some content →
    r.EndsBounded tokens Resolution.outcome (descend (chain ++ [token]) content grid)
      (r.resolve (chain ++ [token]) content grid)

/-- Where there is room for all tokens, a reference is not cut off at once. -/
theorem not_isCutOff_target {reference : Corner} (hgrid : sheet.PartlySolved grid)
    (hchain : DrawnFrom tokens chain)
    (hreference : ∀ q, sheet.Targets reference q → reference.canonical ∈ tokens)
    (hroom : tokens.length ≤ r.maxDepth) : ¬ IsCutOff (r.target chain reference grid) := by
  intro hcut
  rcases exists_cell_of_target_cutOff hcut with ⟨hnot, hceiling, q, content, hposition, hcontent⟩
  -- The chain at the ceiling would hold every token, this one included.
  have hlt := hchain.length_lt (hreference q (hgrid.targets hposition hcontent)) hnot
  omega

/-- Several references in turn. -/
theorem recordReferences_ends {descend : RecordedDescent} (hyields : r.YieldsText)
    (hgrid : sheet.PartlySolved grid) (hchain : DrawnFrom tokens chain) {todo : List Corner}
    (htodo : ∀ reference ∈ todo, ∀ q, sheet.Targets reference q → reference.canonical ∈ tokens)
    (hdescend : r.EndsBelow sheet tokens chain descend) (expression : List Char) :
    r.EndsBounded tokens Prod.fst (r.recordReferences descend chain todo expression grid)
      (r.substitute (r.descend (r.maxDepth - chain.length)) chain todo expression grid) := by
  induction todo generalizing grid expression with
  | nil =>
    rw [recordReferences]
    exact ⟨.pure _ _, fun _ => by simp [substitute, IsCutOff]⟩
  | cons reference rest ih =>
    have hreference := htodo reference List.mem_cons_self
    have hnext := (r.follow_footprint (descend_hasFootprint hyields (r.maxDepth - chain.length)) chain
      reference hgrid).1
    rw [recordReferences, substitute]
    rw [follow_eq] at hnext ⊢
    cases htarget : r.target chain reference grid with
    | error error =>
      refine ⟨.pure _ _, fun hroom hcut => ?_⟩
      apply not_isCutOff_target hgrid hchain hreference hroom
      rw [htarget]
      exact hcut.error
    | ok cell =>
      rcases cell with ⟨row, column, content⟩
      rcases target_eq_ok htarget with ⟨hnot, hposition, hcontent⟩
      have hbelow := length_lt_of_target htarget
      have hmem := hreference (row, column) (hgrid.targets hposition hcontent)
      -- The token joins the chain, and what it names is resolved in full before the next one.
      have hends := hdescend reference.canonical (row, column) content grid
        (hchain.append hmem hnot) hgrid hcontent
      simp only [htarget, descend_eq_resolve r reference.canonical hbelow] at hnext ⊢
      generalize r.resolve (chain ++ [reference.canonical]) content grid = result at hends hnext ⊢
      have hwritten : tokens.length ≤ r.maxDepth →
          ¬ IsCutOff (result.writtenTo row column).outcome :=
        fun hroom hcut => hends.not_cutOff hroom (isCutOff_writtenTo_iff.1 hcut)
      generalize hresult : result.writtenTo row column = written at hnext hwritten ⊢
      rcases written with ⟨error | value, next⟩
      · refine ⟨hends.runs.bind ?_, fun hroom hcut => hwritten hroom hcut.error⟩
        rw [hresult]
        exact .pure _ _
      · have hrest := ih hnext (fun other hother => htodo other (List.mem_cons_of_mem reference hother))
          (Text.replaceAll reference.token value.toList expression)
        refine ⟨hends.runs.bind ?_, hrest.not_cutOff⟩
        rw [hresult]
        exact hrest.runs

/-- One level: a cell content ends so if what it refers to does. -/
theorem recordWith_ends {descend : RecordedDescent} (hyields : r.YieldsText)
    (hinside : sheet.RefersInside tokens) (hgrid : sheet.PartlySolved grid)
    (hchain : DrawnFrom tokens chain) {content : String}
    (hcontent : grid.cell? p.1 p.2 = some content)
    (hdescend : r.EndsBelow sheet tokens chain descend) :
    r.EndsBounded tokens Resolution.outcome (r.recordWith descend chain content grid)
      (r.resolve chain content grid) := by
  unfold recordWith
  cases hformula : formula? content with
  | none =>
    rw [resolve_of_text r chain grid hformula]
    exact .noted hchain fun _ => by simp [IsCutOff]
  | some formula =>
    cases hprepare : prepare grid formula with
    | error error =>
      rw [resolve_of_refused r chain hformula hprepare]
      simp only [hprepare]
      exact .noted hchain fun _ => not_isCutOff_of_prepare hprepare
    | ok expression =>
      -- A grid that is partly solved has no reference that the sheet does not have.
      have htodo : ∀ reference ∈ references expression, ∀ q, sheet.Targets reference q →
          reference.canonical ∈ tokens := by
        intro reference hreference
        apply hinside p
        apply hgrid.mem_referencesAt
        rw [Grid.referencesAt_of_formula hcontent hformula]
        simpa [Grid.referencesIn, hprepare] using hreference
      have hends := recordReferences_ends hyields hgrid hchain htodo hdescend expression
      rw [resolve_of_prepared r chain hformula hprepare]
      simp only [hprepare]
      -- With the recorded run ending like the plain one, what is left depends on its result alone.
      generalize r.substitute (r.descend (r.maxDepth - chain.length)) chain (references expression)
        expression grid = result at hends
      rcases result with ⟨error | filled, next⟩
      · have hnoted : r.EndsBounded tokens Resolution.outcome (noted chain ⟨.error error, next⟩)
            ⟨.error error, next⟩ :=
          .noted hchain fun hroom hcut => hends.not_cutOff hroom hcut.error
        exact ⟨hends.runs.bind hnoted.runs, hnoted.not_cutOff⟩
      · have hnoted : r.EndsBounded tokens Resolution.outcome (noted chain ⟨r.compute filled, next⟩)
            ⟨r.compute filled, next⟩ :=
          .noted hchain fun _ => not_isCutOff_compute r filled
        exact ⟨hends.runs.bind hnoted.runs, hnoted.not_cutOff⟩

/-- Resolution of a cell under a chain drawn from the tokens of a sheet ends within as many levels as there are
tokens left, and one, and so does every resolution on the way. -/
theorem recordContent_ends {levels : Nat} (hyields : r.YieldsText) (hinside : sheet.RefersInside tokens)
    (hgrid : sheet.PartlySolved grid) (hchain : DrawnFrom tokens chain)
    (hlevels : tokens.length < chain.length + levels) {content : String}
    (hcontent : grid.cell? p.1 p.2 = some content) :
    r.EndsBounded tokens Resolution.outcome (r.recordContent levels chain content grid)
      (r.resolve chain content grid) := by
  induction levels generalizing chain p grid content with
  | zero =>
    -- A chain is never longer than the tokens that it is drawn from.
    exact absurd hchain.length_le (Nat.not_le_of_lt hlevels)
  | succ levels ih =>
    refine recordWith_ends hyields hinside hgrid hchain hcontent ?_
    intro token q content grid hlonger hgrid hcontent
    refine ih hgrid hlonger ?_ hcontent
    simp only [List.length_append, List.length_singleton]
    omega

end Resolver
end SheetMarkup
