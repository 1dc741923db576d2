import SheetMarkup.Proofs.Formula.Underway

/-!
# Descent — every write is final

Resolution writes into the grid it reads: a referenced cell gets its value as soon as it is known,
under whatever chain of references it was reached. Each text written is nevertheless the one that the
cell ends with. Where a chain closes, the formulas along it wait for one another, so all of them are
looped and the marker of a circular reference is what each of them ends with.

* `Resolver.follow_eq`: one reference is followed to its target, and the outcome is written there
* `Resolver.Followed`: what one reference can come to
* `Resolver.chain_induction`: induction along the room that a chain has left
* `Resolver.resolve_shape`: no row changes its length
* `Resolver.follow_sound`, `Resolver.substitute_sound`: one reference, and several in turn
* `Resolver.resolve_sound`: a cell content under a chain
-/

namespace SheetMarkup

/-! ## One reference -/

namespace Resolver

/-- The cell that a reference leads on to under a chain of references, with its content, or why it is not
followed. -/
def target (r : Resolver) (chain : List String) (reference : Corner) (grid : Grid) :
    Except FormulaError (Nat × Nat × String) :=
  if chain.contains reference.canonical then .error .circularReference
  else
    match reference.position?.bind fun (row, column) =>
        (grid.cell? row column).map fun content => (row, column, content) with
    | none => .error (.nonExistentCell reference.canonical)
    | some cell =>
      if r.maxDepth ≤ chain.length then .error (.recursionLimit r.maxDepth) else .ok cell

end Resolver

/-- What a reference comes to when the cell it names has been resolved: the outcome is written into the cell
unless the chain was cut off. -/
def Resolution.writtenTo (row column : Nat) : Resolution → Resolution
  | ⟨.error (.recursionLimit depth), grid⟩ => ⟨.error (.recursionLimit depth), grid⟩
  | ⟨outcome, grid⟩ => ⟨shownValue (cellText outcome), grid.set row column (cellText outcome)⟩

theorem Resolution.writtenTo_of_not_isCutOff {outcome : Except FormulaError String} {next : Grid}
    {row column : Nat} (h : ¬ Resolver.IsCutOff outcome) :
    Resolution.writtenTo row column ⟨outcome, next⟩ =
      ⟨shownValue (cellText outcome), next.set row column (cellText outcome)⟩ := by
  unfold writtenTo
  split
  · rename_i heq
    cases heq
    exact absurd ⟨_, rfl⟩ h
  · rename_i heq
    cases heq
    rfl

/-- A reference is followed to its target and comes to what is written there. -/
theorem Resolver.follow_eq (r : Resolver) (descend : Descent) (chain : List String)
    (reference : Corner) (grid : Grid) :
    r.follow descend chain reference grid =
      match r.target chain reference grid with
      | .error error => ⟨.error error, grid⟩
      | .ok (row, column, content) =>
        (descend (chain ++ [reference.canonical]) content grid).writtenTo row column := by
  unfold follow target
  dsimp only
  split
  · rfl
  · generalize (reference.position?.bind fun x =>
      (grid.cell? x.1 x.2).map fun content => (x.1, x.2, content)) = found
    rcases found with _ | ⟨row, column, content⟩
    · rfl
    · dsimp only
      split
      · rfl
      · dsimp only
        generalize descend (chain ++ [reference.canonical]) content grid = resolution
        -- The one error that is not written is told apart from the others.
        split
        · rfl
        · rename_i outcome next hne
          have hcut : ¬ Resolver.IsCutOff outcome := by
            rintro ⟨depth, rfl⟩
            exact hne depth rfl
          rw [Resolution.writtenTo_of_not_isCutOff hcut, shownValue]
          cases FormulaError.ofMarker? (cellText outcome) with
          | none => rfl
          | some error => rfl

namespace Resolver

/-- What following a reference comes to: the chain closes, there is no such cell, the chain has
reached the ceiling, it is cut off further down, or the cell gets the text of its outcome. -/
inductive Followed (r : Resolver) (descend : Descent) (chain : List String) (reference : Corner)
    (grid : Grid) : Resolution → Prop where
  | closed :
      reference.canonical ∈ chain →
      Followed r descend chain reference grid ⟨.error .circularReference, grid⟩
  | outside :
      (∀ p, reference.position? = some p → grid.cell? p.1 p.2 = none) →
      Followed r descend chain reference grid
        ⟨.error (.nonExistentCell reference.canonical), grid⟩
  | ceiling {p : Nat × Nat} {content : String} :
      reference.position? = some p → grid.cell? p.1 p.2 = some content →
      reference.canonical ∉ chain → r.maxDepth ≤ chain.length →
      Followed r descend chain reference grid ⟨.error (.recursionLimit r.maxDepth), grid⟩
  | cutOff {p : Nat × Nat} {content : String} {depth : Nat} {next : Grid} :
      reference.position? = some p → grid.cell? p.1 p.2 = some content →
      reference.canonical ∉ chain → chain.length < r.maxDepth →
      descend (chain ++ [reference.canonical]) content grid =
        ⟨.error (.recursionLimit depth), next⟩ →
      Followed r descend chain reference grid ⟨.error (.recursionLimit depth), next⟩
  | settled {p : Nat × Nat} {content : String} {outcome : Except FormulaError String}
      {next : Grid} :
      reference.position? = some p → grid.cell? p.1 p.2 = some content →
      reference.canonical ∉ chain → chain.length < r.maxDepth →
      descend (chain ++ [reference.canonical]) content grid = ⟨outcome, next⟩ →
      ¬ IsCutOff outcome →
      Followed r descend chain reference grid
        ⟨shownValue (cellText outcome), next.set p.1 p.2 (cellText outcome)⟩

theorem followed (r : Resolver) (descend : Descent) (chain : List String) (reference : Corner)
    (grid : Grid) :
    r.Followed descend chain reference grid (r.follow descend chain reference grid) := by
  rw [follow_eq]
  unfold target
  by_cases hmem : reference.canonical ∈ chain
  · simpa [hmem] using Followed.closed hmem
  · rw [if_neg (by simpa using hmem)]
    cases hcell : reference.position?.bind fun (row, column) =>
        (grid.cell? row column).map fun content => (row, column, content) with
    | none =>
      refine Followed.outside fun p hp => ?_
      simpa [hp] using hcell
    | some cell =>
      rcases Option.bind_eq_some_iff.1 hcell with ⟨p, hp, hmap⟩
      rcases Option.map_eq_some_iff.1 hmap with ⟨content, hcontent, rfl⟩
      -- The ceiling matters only for a token that is not in the chain and names a cell.
      by_cases hceiling : r.maxDepth ≤ chain.length
      · simp only [if_pos hceiling]
        exact Followed.ceiling hp hcontent hmem hceiling
      · simp only [if_neg hceiling]
        have hbelow : chain.length < r.maxDepth := by omega
        cases hdescend : descend (chain ++ [reference.canonical]) content grid with
        | mk outcome next =>
          by_cases hcut : IsCutOff outcome
          · rcases hcut with ⟨depth, rfl⟩
            exact Followed.cutOff hp hcontent hmem hbelow hdescend
          · rw [Resolution.writtenTo_of_not_isCutOff hcut]
            exact Followed.settled hp hcontent hmem hbelow hdescend hcut

/-! ## Unfolding -/

/-- Below the ceiling a reference is followed by resolving the cell it names. -/
theorem descend_eq_resolve (r : Resolver) {chain : List String} (token : String)
    (h : chain.length < r.maxDepth) :
    r.descend (r.maxDepth - chain.length) (chain ++ [token]) = r.resolve (chain ++ [token]) := by
  have hlevels : r.maxDepth - chain.length = r.maxDepth - (chain ++ [token]).length + 1 := by
    simp only [List.length_append, List.length_singleton]
    omega
  rw [hlevels]
  rfl

/-- What follows for a chain from its extensions below the ceiling holds for every chain. -/
theorem chain_induction (r : Resolver) {motive : List String → Prop}
    (step : ∀ chain, (∀ token, chain.length < r.maxDepth → motive (chain ++ [token])) → motive chain)
    (chain : List String) : motive chain := by
  -- The room that the chain has left decreases with every reference that is followed.
  induction hroom : r.maxDepth - chain.length generalizing chain with
  | zero => exact step chain fun token hbelow => absurd hbelow (by omega)
  | succ room ih =>
    refine step chain fun token hbelow => ih (chain ++ [token]) ?_
    simp only [List.length_append, List.length_singleton]
    omega

theorem resolveWith_of_text (r : Resolver) (descend : Descent) (chain : List String)
    {content : String} (grid : Grid) (h : formula? content = none) :
    r.resolveWith descend chain content grid = ⟨.ok content, grid⟩ := by
  unfold resolveWith
  unfold formula? at h
  split
  · rename_i hcontent
    simp [hcontent] at h
  · rfl

theorem resolve_of_text (r : Resolver) (chain : List String) {content : String} (grid : Grid)
    (h : formula? content = none) : r.resolve chain content grid = ⟨.ok content, grid⟩ :=
  resolveWith_of_text r _ chain grid h

theorem resolveWith_of_formula (r : Resolver) (descend : Descent) (chain : List String)
    {content : String} {formula : List Char} (grid : Grid) (h : formula? content = some formula) :
    r.resolveWith descend chain content grid =
      match prepare grid formula with
      | .error error => ⟨.error error, grid⟩
      | .ok expression =>
        match r.substitute descend chain (references expression) expression grid with
        | (.error error, next) => ⟨.error error, next⟩
        | (.ok expression, next) => ⟨r.compute expression, next⟩ := by
  unfold formula? at h
  split at h
  · rename_i hcontent
    cases h
    unfold resolveWith
    rw [hcontent]
    rfl
  · cases h

theorem resolve_of_refused (r : Resolver) (chain : List String) {content : String}
    {formula : List Char} {grid : Grid} {error : FormulaError}
    (h : formula? content = some formula) (hprepare : prepare grid formula = .error error) :
    r.resolve chain content grid = ⟨.error error, grid⟩ := by
  rw [resolve, resolveWith_of_formula r _ chain grid h, hprepare]

theorem resolve_of_prepared (r : Resolver) (chain : List String) {content : String}
    {formula expression : List Char} {grid : Grid} (h : formula? content = some formula)
    (hprepare : prepare grid formula = .ok expression) :
    r.resolve chain content grid =
      match r.substitute (r.descend (r.maxDepth - chain.length)) chain (references expression)
          expression grid with
      | (.error error, next) => ⟨.error error, next⟩
      | (.ok expression, next) => ⟨r.compute expression, next⟩ := by
  rw [resolve, resolveWith_of_formula r _ chain grid h, hprepare]

/-! ## The lengths of the rows -/

def Descent.KeepsShape (descend : Descent) : Prop :=
  ∀ chain content grid, (descend chain content grid).grid.shape = grid.shape

theorem follow_shape (r : Resolver) {descend : Descent} (h : descend.KeepsShape) (chain : List String)
    (reference : Corner) (grid : Grid) :
    (r.follow descend chain reference grid).grid.shape = grid.shape := by
  have hfollow := followed r descend chain reference grid
  generalize r.follow descend chain reference grid = result at hfollow
  cases hfollow with
  | closed => rfl
  | outside => rfl
  | ceiling => rfl
  | @cutOff _ content _ _ _ _ _ _ hdescend =>
    have hnext := h (chain ++ [reference.canonical]) content grid
    rwa [hdescend] at hnext
  | @settled _ content _ _ _ _ _ _ hdescend =>
    have hnext := h (chain ++ [reference.canonical]) content grid
    rw [hdescend] at hnext
    exact (Grid.shape_set _ _ _ _).trans hnext

theorem substitute_shape (r : Resolver) {descend : Descent} (h : descend.KeepsShape) (chain : List String)
    (todo : List Corner) (expression : List Char) (grid : Grid) :
    (r.substitute descend chain todo expression grid).2.shape = grid.shape := by
  induction todo generalizing expression grid with
  | nil => rfl
  | cons reference rest ih =>
    have hfollow := r.follow_shape h chain reference grid
    unfold substitute
    generalize r.follow descend chain reference grid = result at hfollow
    rcases result with ⟨error | value, next⟩
    · exact hfollow
    · exact (ih _ next).trans hfollow

theorem resolveWith_keepsShape (r : Resolver) {descend : Descent} (h : descend.KeepsShape) :
    Descent.KeepsShape (r.resolveWith descend) := by
  intro chain content grid
  unfold resolveWith
  split
  · split
    · rfl
    · rename_i expression _
      have hsubstitute := r.substitute_shape h chain (references expression) expression grid
      split
      · rename_i hresult
        simpa [hresult] using hsubstitute
      · rename_i hresult
        simpa [hresult] using hsubstitute
  · rfl

theorem descend_keepsShape (r : Resolver) (levels : Nat) : (r.descend levels).KeepsShape := by
  induction levels with
  | zero => exact fun _ _ _ => rfl
  | succ levels ih => exact r.resolveWith_keepsShape ih

theorem resolve_shape (r : Resolver) (chain : List String) (content : String) (grid : Grid) :
    (r.resolve chain content grid).grid.shape = grid.shape :=
  r.resolveWith_keepsShape (r.descend_keepsShape _) chain content grid

/-! ## Soundness -/

section Soundness

variable {r : Resolver} {sheet grid : Grid} {p q : Nat × Nat} {chain : List String}

/-- A result of resolution keeps the grid underway and every final text, and is final for a cell
unless the chain was cut off. -/
structure SoundFor (r : Resolver) (sheet : Grid) (p : Nat × Nat) (grid : Grid)
    (result : Resolution) : Prop where
  underway : r.Underway sheet result.grid
  keeps : grid.Keeps result.grid
  final : ¬ IsCutOff result.outcome → r.Final sheet p (cellText result.outcome)

/-- What the references of a formula come to: the chain was cut off, or the formula is looped, or
the references stand for what the grid shows and what counts of it is grounded. -/
inductive Accounted (r : Resolver) (sheet : Grid) (p : Nat × Nat) (grid : Grid)
    (references : List Corner) (expression : List Char) :
    Except FormulaError (List Char) → Prop where
  | cutOff {depth : Nat} :
      Accounted r sheet p grid references expression (.error (.recursionLimit depth))
  | looped {error : FormulaError} :
      r.Looped sheet p → error.marker = circularText →
      Accounted r sheet p grid references expression (.error error)
  | shown {result : Except FormulaError (List Char)} :
      grid.readInto references expression = result →
      (∀ reference ∈ grid.consulted references, ∀ q value, reference.position? = some q →
        grid.cell? q.1 q.2 = some value → r.Grounded sheet q value) →
      Accounted r sheet p grid references expression result

/-- One reference of a formula. -/
theorem follow_sound (hbasic : sheet.HasBasicReferences) {descend : Descent}
    {before after : List Corner} {reference : Corner}
    (hdescend : ∀ q content grid, chain.length < r.maxDepth →
      r.Awaits sheet p before reference q → r.Underway sheet grid →
      grid.cell? q.1 q.2 = some content →
      r.SoundFor sheet q grid (descend (chain ++ [reference.canonical]) content grid))
    (htrail : r.Trail sheet chain p) (hlength : chain.length ≤ r.maxDepth)
    (hlisted : sheet.referencesAt p = before ++ reference :: after)
    (hbefore : ∀ b ∈ before, ∃ s value, b.position? = some s ∧ r.Grounded sheet s value ∧
      shownValue value = .ok value)
    (hfits : before = [] ∨ chain.length < r.maxDepth) (hgrid : r.Underway sheet grid)
    {result : Resolution} (hfollow : r.Followed descend chain reference grid result) :
    r.Underway sheet result.grid ∧ grid.Keeps result.grid ∧
      (IsCutOff result.outcome ∨
        (∃ error, result.outcome = .error error ∧ r.Looped sheet p ∧
          error.marker = circularText) ∨
        (result.grid.read reference = result.outcome ∧
          (∀ q value, reference.position? = some q → result.grid.cell? q.1 q.2 = some value →
            r.Grounded sheet q value) ∧
          ∀ value, result.outcome = .ok value → chain.length < r.maxDepth)) := by
  cases hfollow with
  | closed hmem =>
    -- The cells along a closed chain wait for one another.
    have hloop := htrail.onLoop hbasic hlength hlisted hbefore hfits hmem
    exact ⟨hgrid, Grid.Keeps.refl grid, Or.inr (Or.inl ⟨_, rfl, hloop.looped, rfl⟩)⟩
  | outside hnone =>
    -- A grid underway has the cells of the sheet, so the reference stands for the same error in it.
    have hread : grid.read reference = .error (.nonExistentCell reference.canonical) := by
      unfold Grid.read
      cases hposition : reference.position? with
      | none => rfl
      | some q => simp [hnone q hposition]
    refine ⟨hgrid, Grid.Keeps.refl grid, Or.inr (Or.inr ⟨hread, ?_, ?_⟩)⟩
    · intro q value hposition hvalue
      rw [hnone q hposition] at hvalue
      cases hvalue
    · intro value hvalue
      cases hvalue
  | ceiling _ _ _ _ => exact ⟨hgrid, Grid.Keeps.refl grid, Or.inl ⟨_, rfl⟩⟩
  | cutOff hposition hcontent hmem hbelow hnext =>
    rename_i q content depth next
    have hawaits : r.Awaits sheet p before reference q :=
      ⟨⟨after, hlisted⟩, hbefore, hposition, hgrid.inside_iff.1 ⟨_, hcontent⟩⟩
    have hsound := hdescend q content grid hbelow hawaits hgrid hcontent
    rw [hnext] at hsound
    exact ⟨hsound.underway, hsound.keeps, Or.inl ⟨_, rfl⟩⟩
  | settled hposition hcontent hmem hbelow hnext hcut =>
    rename_i q content outcome next
    have hawaits : r.Awaits sheet p before reference q :=
      ⟨⟨after, hlisted⟩, hbefore, hposition, hgrid.inside_iff.1 ⟨_, hcontent⟩⟩
    have hsound := hdescend q content grid hbelow hawaits hgrid hcontent
    rw [hnext] at hsound
    have hfinal : r.Final sheet q (cellText outcome) := hsound.final hcut
    -- The text is written in the place that the reference reads.
    have hset := hsound.underway.set hfinal
    rcases hsound.underway.inside_iff.2 hawaits.inside with ⟨old, hold⟩
    have hwritten := Grid.cell?_set_self (cellText outcome) hold
    refine ⟨hset.1, hsound.keeps.trans hset.2, ?_⟩
    -- A looped cell makes the formula looped; a grounded one shows what the reference stands for.
    rcases hfinal with hgrounded | ⟨hlooped, htext⟩
    · refine Or.inr (Or.inr ⟨Grid.read_of_cell hposition hwritten, ?_, fun _ _ => hbelow⟩)
      intro s value hposition' hvalue
      rw [hposition] at hposition'
      cases hposition'
      rw [hwritten] at hvalue
      cases hvalue
      exact hgrounded
    · rcases shownValue_circularText with ⟨error, hshown, hmarker⟩
      refine Or.inr (Or.inl ⟨error, ?_, hlooped.of_awaits hawaits, hmarker⟩)
      simpa [htext] using hshown

/-- A reference in front of others that stands for a value. -/
theorem Accounted.cons {reference : Corner} {rest : List Corner} {expression : List Char}
    {value : String} {result : Except FormulaError (List Char)}
    (hread : grid.read reference = .ok value)
    (hvalue : ∀ q text, reference.position? = some q → grid.cell? q.1 q.2 = some text →
      r.Grounded sheet q text)
    (h : r.Accounted sheet p grid rest
      (Text.replaceAll reference.token value.toList expression) result) :
    r.Accounted sheet p grid (reference :: rest) expression result := by
  cases h with
  | cutOff => exact Accounted.cutOff
  | looped hlooped hmarker => exact Accounted.looped hlooped hmarker
  | shown hresult hgrounded =>
    refine Accounted.shown ?_ fun next hnext q text hposition htext => ?_
    · simpa [Grid.readInto, hread] using hresult
    · rcases mem_takeThrough_cons.1 hnext with rfl | ⟨_, hnext⟩
      · exact hvalue q text hposition htext
      · exact hgrounded next hnext q text hposition htext

/-- A first reference that stands for no value. -/
theorem Accounted.of_error {reference : Corner} {rest : List Corner} {expression : List Char}
    {error : FormulaError} (hread : grid.read reference = .error error)
    (hvalue : ∀ q text, reference.position? = some q → grid.cell? q.1 q.2 = some text →
      r.Grounded sheet q text) :
    r.Accounted sheet p grid (reference :: rest) expression (.error error) := by
  refine Accounted.shown ?_ fun next hnext q text hposition htext => ?_
  · simp [Grid.readInto, hread]
  · rcases mem_takeThrough_cons.1 hnext with rfl | ⟨hok, _⟩
    · exact hvalue q text hposition htext
    · simp [hread, Except.isOk, Except.toBool] at hok

/-- The references of a formula in turn, those `before` having been replaced already. -/
theorem substitute_sound (hyields : r.YieldsText) (hbasic : sheet.HasBasicReferences)
    (descend : Descent)
    (hdescend : ∀ before reference q content grid, chain.length < r.maxDepth →
      r.Awaits sheet p before reference q → r.Underway sheet grid →
      grid.cell? q.1 q.2 = some content →
      r.SoundFor sheet q grid (descend (chain ++ [reference.canonical]) content grid))
    (htrail : r.Trail sheet chain p) (hlength : chain.length ≤ r.maxDepth)
    {rest : List Corner} {before : List Corner} (hlisted : sheet.referencesAt p = before ++ rest)
    (hbefore : ∀ b ∈ before, ∃ s value, b.position? = some s ∧ r.Grounded sheet s value ∧
      shownValue value = .ok value)
    (hfits : before = [] ∨ chain.length < r.maxDepth) (hgrid : r.Underway sheet grid)
    (expression : List Char) :
    r.Underway sheet (r.substitute descend chain rest expression grid).2 ∧
      grid.Keeps (r.substitute descend chain rest expression grid).2 ∧
      r.Accounted sheet p (r.substitute descend chain rest expression grid).2 rest expression
        (r.substitute descend chain rest expression grid).1 := by
  induction rest generalizing before expression grid with
  | nil =>
    refine ⟨hgrid, Grid.Keeps.refl grid, Accounted.shown rfl fun reference hreference => ?_⟩
    cases hreference
  | cons reference rest ih =>
    have hfollow := followed r descend chain reference grid
    rcases follow_sound hbasic (hdescend before reference) htrail hlength hlisted hbefore hfits
      hgrid hfollow with ⟨hnext, hkeeps, hcase⟩
    unfold substitute
    generalize r.follow descend chain reference grid = result at hnext hkeeps hcase
    rcases result with ⟨outcome | value, next⟩
    · refine ⟨hnext, hkeeps, ?_⟩
      -- The reference stands for no value, and nothing behind it is looked at.
      rcases hcase with ⟨depth, hcut⟩ | ⟨error, herror, hlooped, hmarker⟩ | ⟨hread, hvalue, _⟩
      · cases hcut
        exact Accounted.cutOff
      · cases herror
        exact Accounted.looped hlooped hmarker
      · exact Accounted.of_error hread hvalue
    · -- It stands for a value and joins the references that have been replaced.
      rcases hcase with ⟨depth, hcut⟩ | ⟨error, herror, _, _⟩ | ⟨hread, hvalue, hbelow⟩
      · cases hcut
      · cases herror
      · rcases Grid.cell_of_read_eq_ok hread with ⟨q, hposition, hcell, hshown⟩
        have hgrounded : r.Grounded sheet q value := hvalue q value hposition hcell
        have hplain := hgrounded.formula?_eq_none hyields
        have hbefore' : ∀ b ∈ before ++ [reference], ∃ s value, b.position? = some s ∧
            r.Grounded sheet s value ∧ shownValue value = .ok value := by
          intro b hb
          rcases List.mem_append.1 hb with hb | hb
          · exact hbefore b hb
          · rw [List.mem_singleton.1 hb]
            exact ⟨q, value, hposition, hgrounded, hshown⟩
        have hrest := ih (by simpa using hlisted) hbefore' (Or.inr (hbelow value rfl)) hnext
          (Text.replaceAll reference.token value.toList expression)
        refine ⟨hrest.1, hkeeps.trans hrest.2.1, ?_⟩
        -- The value is no formula, so the references behind leave it where it is.
        have hlast := hrest.2.1 q value hcell hplain
        refine Accounted.cons ?_ ?_ hrest.2.2
        · rw [Grid.read_of_cell hposition hlast, hshown]
        · intro s text hposition' htext
          rw [hposition] at hposition'
          cases hposition'
          rw [hlast] at htext
          cases htext
          exact hgrounded

/-- One level of the descent: a cell is resolved soundly if the cells it refers to are. -/
theorem resolve_sound_of_descend (hyields : r.YieldsText) (hbasic : sheet.HasBasicReferences)
    (hdescend : ∀ before reference q content grid, chain.length < r.maxDepth →
      r.Awaits sheet p before reference q → r.Underway sheet grid →
      grid.cell? q.1 q.2 = some content →
      r.SoundFor sheet q grid (r.resolve (chain ++ [reference.canonical]) content grid))
    (htrail : r.Trail sheet chain p) (hlength : chain.length ≤ r.maxDepth)
    (hgrid : r.Underway sheet grid) {content : String}
    (hcontent : grid.cell? p.1 p.2 = some content) :
    r.SoundFor sheet p grid (r.resolve chain content grid) := by
  cases hformula : formula? content with
  | none =>
    rw [resolve_of_text r chain grid hformula]
    exact ⟨hgrid, Grid.Keeps.refl grid, fun _ => hgrid.final hcontent hformula⟩
  | some formula =>
    have hsheet := hgrid.cell_of_formula hyields hcontent hformula
    cases hprepare : prepare grid formula with
    | error error =>
      rw [resolve_of_refused r chain hformula hprepare]
      refine ⟨hgrid, Grid.Keeps.refl grid, fun _ => Or.inl ?_⟩
      -- The formula refers to nothing, so it has the same result in every grid.
      have hvalue := Grounded.formula (r := r) grid hsheet hformula hgrid.shape
      simp only [Grid.referencesIn, evaluateOnce, hprepare] at hvalue
      exact hvalue fun reference hreference => by cases hreference
    | ok expression =>
      rw [resolve_of_prepared r chain hformula hprepare]
      have hlisted : sheet.referencesAt p = [] ++ references expression := by
        rw [Grid.referencesAt_of_formula hsheet hformula,
          ← Grid.referencesIn_congr hgrid.shape]
        simp [Grid.referencesIn, hprepare]
      have hsubstitute := substitute_sound hyields hbasic
        (r.descend (r.maxDepth - chain.length))
        (fun before reference q content grid hbelow hawaits hgrid hcontent => by
          rw [descend_eq_resolve r reference.canonical hbelow]
          exact hdescend before reference q content grid hbelow hawaits hgrid hcontent)
        htrail hlength hlisted (by simp) (Or.inl rfl) hgrid expression
      generalize r.substitute (r.descend (r.maxDepth - chain.length)) chain
        (references expression) expression grid = result at hsubstitute
      rcases result with ⟨result, next⟩
      rcases hsubstitute with ⟨hnext, hkeeps, haccounted⟩
      have hsame : next.shape = grid.shape := hnext.shape.trans hgrid.shape.symm
      -- The grid after the substitution is the one against which the formula is evaluated once.
      have hvalue := Grounded.formula (r := r) next hsheet hformula hnext.shape
      simp only [Grid.referencesIn, evaluateOnce, prepare_congr hsame, hprepare] at hvalue
      cases haccounted with
      | cutOff => exact ⟨hnext, hkeeps, fun hcut => absurd ⟨_, rfl⟩ hcut⟩
      | looped hlooped hmarker => exact ⟨hnext, hkeeps, fun _ => Or.inr ⟨hlooped, hmarker⟩⟩
      | shown hresult hgrounded =>
        have hfinal := hvalue hgrounded
        rw [hresult] at hfinal
        cases result with
        | error error => exact ⟨hnext, hkeeps, fun _ => Or.inl hfinal⟩
        | ok expression => exact ⟨hnext, hkeeps, fun _ => Or.inl hfinal⟩

/-- Resolving a cell under a chain keeps the grid underway and gives the text the cell ends with,
unless the chain is cut off. -/
theorem resolve_sound (hyields : r.YieldsText) (hbasic : sheet.HasBasicReferences)
    (htrail : r.Trail sheet chain p) (hlength : chain.length ≤ r.maxDepth)
    (hgrid : r.Underway sheet grid) {content : String}
    (hcontent : grid.cell? p.1 p.2 = some content) :
    r.SoundFor sheet p grid (r.resolve chain content grid) := by
  induction chain using r.chain_induction generalizing p grid content with
  | step chain ih =>
    refine resolve_sound_of_descend hyields hbasic ?_ htrail hlength hgrid hcontent
    intro before reference q content grid hbelow hawaits hgrid hcontent
    have hone : (chain ++ [reference.canonical]).length = chain.length + 1 := by simp
    exact ih _ hbelow (htrail.step hawaits) (by omega) hgrid hcontent

end Soundness

end Resolver
end SheetMarkup
