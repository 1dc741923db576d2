import SheetMarkup.Proofs.Formula.Descent

/-!
# Settling — chains that are not cut off

A formula is settled at once where every reference that counts shows a text that is no formula. A
formula on a cycle that is found is settled too, once all grounded cells are filled in: the chain
passes the references before the awaited one, goes around the cycle and closes before it is cut off.

* `Resolver.ShowsGrounded`: grids in which all grounded cells are filled in
* `resolve_not_cutOff_of_consulted`, `resolve_not_cutOff_of_filled`: nothing that counts is a formula
* `resolve_not_cutOff_of_leads`, `resolve_not_cutOff_of_onLoop`: the chain closes
-/

namespace SheetMarkup

namespace Resolver

def ShowsGrounded (r : Resolver) (sheet grid : Grid) : Prop :=
  ∀ p value, r.Grounded sheet p value → grid.cell? p.1 p.2 = some value

variable {r : Resolver} {sheet grid : Grid} {p q : Nat × Nat} {chain : List String}

theorem not_isCutOff_compute (r : Resolver) (expression : List Char) :
    ¬ IsCutOff (r.compute expression) := by
  rintro ⟨depth, hcut⟩
  rcases exists_failure_of_compute hcut with ⟨failure, _, hlimit⟩
  cases hlimit

/-- A formula that is refused as a whole was not cut off. -/
theorem not_isCutOff_of_prepare {formula : List Char} {error : FormulaError}
    (h : prepare grid formula = .error error) :
    ¬ IsCutOff (.error error : Except FormulaError String) := by
  rintro ⟨depth, hcut⟩
  cases hcut
  rcases error_of_prepare h with hlimit | hlimit <;> cases hlimit

/-- A text that is no formula follows no chain. -/
theorem not_isCutOff_of_text (r : Resolver) (chain : List String) {content : String} (grid : Grid)
    (h : formula? content = none) : ¬ IsCutOff (r.resolve chain content grid).outcome := by
  rw [resolve_of_text r chain grid h]
  rintro ⟨depth, hcut⟩
  cases hcut

/-- A formula is cut off where its references are. -/
theorem isCutOff_resolve_iff {content : String} {formula expression : List Char}
    (h : formula? content = some formula) (hprepare : prepare grid formula = .ok expression) :
    IsCutOff (r.resolve chain content grid).outcome ↔
      IsCutOff (r.substitute (r.descend (r.maxDepth - chain.length)) chain
        (references expression) expression grid).1 := by
  rw [resolve_of_prepared r chain h hprepare]
  generalize r.substitute (r.descend (r.maxDepth - chain.length)) chain (references expression)
    expression grid = result
  rcases result with ⟨error | expression, next⟩
  · simp [IsCutOff]
  · have hnot := not_isCutOff_compute r expression
    simpa [IsCutOff] using hnot

/-! ## References to texts -/

/-- A reference to a text that is no formula leaves the grid as it is. -/
theorem follow_of_text {reference : Corner} {text : String}
    (hposition : reference.position? = some q) (htext : grid.cell? q.1 q.2 = some text)
    (hplain : formula? text = none) (hbelow : chain.length < r.maxDepth) :
    r.follow (r.descend (r.maxDepth - chain.length)) chain reference grid =
        ⟨.error .circularReference, grid⟩ ∨
      r.follow (r.descend (r.maxDepth - chain.length)) chain reference grid =
        ⟨shownValue text, grid⟩ := by
  have hfollow := followed r (r.descend (r.maxDepth - chain.length)) chain reference grid
  generalize r.follow (r.descend (r.maxDepth - chain.length)) chain reference grid = result
    at hfollow
  -- The cell named holds its own value, so resolving it writes back what it holds.
  have hresolve : ∀ content, grid.cell? q.1 q.2 = some content →
      r.descend (r.maxDepth - chain.length) (chain ++ [reference.canonical]) content grid =
        ⟨.ok text, grid⟩ := by
    intro content hcontent
    rw [htext] at hcontent
    cases hcontent
    rw [descend_eq_resolve r reference.canonical hbelow]
    exact resolve_of_text r _ grid hplain
  cases hfollow with
  | closed _ => exact Or.inl rfl
  | outside hnone =>
    rw [hnone q hposition] at htext
    cases htext
  | ceiling _ _ _ hceiling => omega
  | cutOff hposition' hcontent _ _ hdescend =>
    rw [hposition] at hposition'
    cases hposition'
    rw [hresolve _ hcontent] at hdescend
    cases hdescend
  | settled hposition' hcontent _ _ hdescend _ =>
    rw [hposition] at hposition'
    cases hposition'
    rw [hresolve _ hcontent] at hdescend
    cases hdescend
    refine Or.inr ?_
    simp only [cellText]
    rw [Grid.set_eq_self htext]

/-- References in front that stand for values are passed, unless the chain closes there. -/
theorem substitute_append {before : List Corner}
    (hbefore : ∀ b ∈ before, ∃ s value, b.position? = some s ∧
      grid.cell? s.1 s.2 = some value ∧ formula? value = none ∧ shownValue value = .ok value)
    (hfits : before = [] ∨ chain.length < r.maxDepth) (rest : List Corner)
    (expression : List Char) :
    (r.substitute (r.descend (r.maxDepth - chain.length)) chain (before ++ rest) expression
        grid).1 = .error .circularReference ∨
      ∃ replaced, r.substitute (r.descend (r.maxDepth - chain.length)) chain (before ++ rest)
          expression grid =
        r.substitute (r.descend (r.maxDepth - chain.length)) chain rest replaced grid := by
  induction before generalizing expression with
  | nil => exact Or.inr ⟨expression, rfl⟩
  | cons b before ih =>
    have hbelow : chain.length < r.maxDepth := by
      rcases hfits with hnil | hbelow
      · cases hnil
      · exact hbelow
    rcases hbefore b List.mem_cons_self with ⟨s, value, hposition, hvalue, hplain, hshown⟩
    rw [List.cons_append, substitute]
    rcases follow_of_text hposition hvalue hplain hbelow with hclosed | hfollow
    · rw [hclosed]
      exact Or.inl rfl
    · rw [hfollow, hshown]
      exact ih (fun c hc => hbefore c (List.mem_cons_of_mem b hc)) (Or.inr hbelow) _

/-- References are not cut off if all that count name texts which are no formulas. -/
theorem substitute_not_cutOff {references : List Corner} (hbelow : chain.length < r.maxDepth)
    (h : ∀ reference ∈ grid.consulted references, ∀ q text, reference.position? = some q →
      grid.cell? q.1 q.2 = some text → formula? text = none) (expression : List Char) :
    ¬ IsCutOff (r.substitute (r.descend (r.maxDepth - chain.length)) chain references expression
      grid).1 := by
  induction references generalizing expression with
  | nil =>
    rintro ⟨depth, hcut⟩
    cases hcut
  | cons reference rest ih =>
    have hhead := h reference (mem_takeThrough_cons.2 (Or.inl rfl))
    unfold substitute
    have hresult : ¬ IsCutOff
          (r.follow (r.descend (r.maxDepth - chain.length)) chain reference grid).outcome ∧
        ∀ value, (r.follow (r.descend (r.maxDepth - chain.length)) chain reference
            grid).outcome = .ok value →
          (r.follow (r.descend (r.maxDepth - chain.length)) chain reference grid).grid = grid ∧
            grid.read reference = .ok value := by
      -- The reference names no cell, or a text that is passed on as it is shown.
      cases htarget : reference.position?.bind fun q => grid.cell? q.1 q.2 with
      | none =>
        have hfollow := followed r (r.descend (r.maxDepth - chain.length)) chain reference grid
        generalize r.follow (r.descend (r.maxDepth - chain.length)) chain reference grid = result
          at hfollow
        have hnone : ∀ q content, reference.position? = some q →
            grid.cell? q.1 q.2 = some content → False := by
          intro q content hposition hcontent
          simp [hposition, hcontent] at htarget
        cases hfollow with
        | closed _ => simp [IsCutOff]
        | outside _ => simp [IsCutOff]
        | ceiling hposition hcontent _ _ => exact (hnone _ _ hposition hcontent).elim
        | cutOff hposition hcontent _ _ _ => exact (hnone _ _ hposition hcontent).elim
        | settled hposition hcontent _ _ _ _ => exact (hnone _ _ hposition hcontent).elim
      | some text =>
        rcases Option.bind_eq_some_iff.1 htarget with ⟨q, hposition, htext⟩
        rcases follow_of_text hposition htext (hhead q text hposition htext) hbelow with
          hclosed | hfollow
        · simp [hclosed, IsCutOff]
        · rw [hfollow, Grid.read_of_cell hposition htext]
          refine ⟨?_, fun value hvalue => ⟨rfl, hvalue⟩⟩
          rintro ⟨depth, hcut⟩
          exact shownValue_ne_recursionLimit text depth hcut
    generalize r.follow (r.descend (r.maxDepth - chain.length)) chain reference grid = result
      at hresult
    rcases result with ⟨error | value, next⟩
    · simpa [IsCutOff] using hresult.1
    · rcases hresult.2 value rfl with ⟨rfl, hread⟩
      refine ih (fun next hnext => ?_) _
      apply h next
      exact mem_takeThrough_cons.2 (Or.inr ⟨by simp [hread, Except.isOk, Except.toBool], hnext⟩)

/-- A cell is not cut off if all references that count name texts which are no formulas. -/
theorem resolve_not_cutOff_of_consulted (hyields : r.YieldsText) (hgrid : r.Underway sheet grid)
    {content : String} (hcontent : grid.cell? p.1 p.2 = some content)
    (hbelow : chain.length < r.maxDepth)
    (h : ∀ reference ∈ grid.consulted (sheet.referencesAt p), ∀ q text,
      reference.position? = some q → grid.cell? q.1 q.2 = some text → formula? text = none) :
    ¬ IsCutOff (r.resolve chain content grid).outcome := by
  cases hformula : formula? content with
  | none => exact not_isCutOff_of_text r chain grid hformula
  | some formula =>
    have hsheet := hgrid.cell_of_formula hyields hcontent hformula
    rw [Grid.referencesAt_of_formula hsheet hformula,
      ← Grid.referencesIn_congr hgrid.shape] at h
    cases hprepare : prepare grid formula with
    | error error =>
      rw [resolve_of_refused r chain hformula hprepare]
      exact not_isCutOff_of_prepare hprepare
    | ok expression =>
      rw [isCutOff_resolve_iff hformula hprepare]
      refine substitute_not_cutOff hbelow ?_ expression
      simpa [Grid.referencesIn, hprepare] using h

/-- A formula is settled where the values of all references that count are filled in. -/
theorem resolve_not_cutOff_of_filled (hyields : r.YieldsText) (hgrid : r.Underway sheet grid)
    {shown : Grid} {content text : String} {formula : List Char}
    (hcontent : grid.cell? p.1 p.2 = some content) (hbelow : chain.length < r.maxDepth)
    (htext : sheet.cell? p.1 p.2 = some text) (hformula : formula? text = some formula)
    (hshape : shown.shape = sheet.shape)
    (hfilled : ∀ reference ∈ shown.consulted (shown.referencesIn formula), ∀ q value,
      reference.position? = some q → shown.cell? q.1 q.2 = some value →
      grid.cell? q.1 q.2 = some value ∧ formula? value = none) :
    ¬ IsCutOff (r.resolve chain content grid).outcome := by
  have hsame : grid.shape = shown.shape := hgrid.shape.trans hshape.symm
  have hread : ∀ reference ∈ shown.consulted (shown.referencesIn formula),
      shown.read reference = grid.read reference := by
    intro reference hreference
    apply Grid.read_congr hsame.symm
    intro q value value' hposition hvalue hvalue'
    rw [(hfilled reference hreference q value hposition hvalue).1] at hvalue'
    exact Option.some.inj hvalue'
  -- The grid agrees with the one of the values, so the same references count in both.
  have hconsulted := Grid.consulted_congr fun reference hreference _ => hread reference hreference
  refine resolve_not_cutOff_of_consulted hyields hgrid hcontent hbelow ?_
  intro reference hreference q found hposition hfound
  rw [Grid.referencesAt_of_formula htext hformula, ← Grid.referencesIn_congr hshape,
    ← hconsulted] at hreference
  rcases Grid.exists_cell?_of_shape_eq hsame hfound with ⟨value, hvalue⟩
  rcases hfilled reference hreference q value hposition hvalue with ⟨hfound', hplain⟩
  rw [hfound] at hfound'
  cases hfound'
  exact hplain

/-! ## Cycles -/

/-- The references before an awaited one, as a grid shows them in which the grounded cells are. -/
theorem Awaits.before_plain {before : List Corner} {reference : Corner} (hyields : r.YieldsText)
    (h : r.Awaits sheet p before reference q) (hshows : r.ShowsGrounded sheet grid) :
    ∀ b ∈ before, ∃ s value, b.position? = some s ∧ grid.cell? s.1 s.2 = some value ∧
      formula? value = none ∧ shownValue value = .ok value := by
  intro b hb
  rcases h.before_shown b hb with ⟨s, value, hposition, hgrounded, hshown⟩
  exact ⟨s, value, hposition, hshows s value hgrounded, hgrounded.formula?_eq_none hyields, hshown⟩

/-- A formula that waits for a cell has got past its checks. -/
theorem Awaits.exists_prepared {before : List Corner} {reference : Corner} {content : String}
    {formula : List Char} (hyields : r.YieldsText) (h : r.Awaits sheet p before reference q)
    (hgrid : r.Underway sheet grid) (hcontent : grid.cell? p.1 p.2 = some content)
    (hformula : formula? content = some formula) :
    ∃ expression after, prepare grid formula = .ok expression ∧
      references expression = before ++ reference :: after := by
  rcases h.listed with ⟨after, hlisted⟩
  have hsheet := hgrid.cell_of_formula hyields hcontent hformula
  rw [Grid.referencesAt_of_formula hsheet hformula, ← Grid.referencesIn_congr hgrid.shape,
    Grid.referencesIn] at hlisted
  cases hprepare : prepare grid formula with
  | error error => simp [hprepare] at hlisted
  | ok expression => exact ⟨expression, after, rfl, by simpa [hprepare] using hlisted⟩

/-- A formula that waits for a looped cell is settled if that cell is settled when it is followed. -/
theorem Awaits.resolve_not_cutOff {before : List Corner} {reference : Corner}
    (hyields : r.YieldsText) (hbasic : sheet.HasBasicReferences)
    (hawaits : r.Awaits sheet p before reference q) (hlooped : r.Looped sheet q)
    (htrail : r.Trail sheet chain p) (hbelow : chain.length < r.maxDepth)
    (hgrid : r.Underway sheet grid) (hshows : r.ShowsGrounded sheet grid) {content : String}
    (hcontent : grid.cell? p.1 p.2 = some content)
    (hnext : ∀ content, grid.cell? q.1 q.2 = some content →
      ¬ IsCutOff (r.resolve (chain ++ [reference.canonical]) content grid).outcome) :
    ¬ IsCutOff (r.resolve chain content grid).outcome := by
  cases hformula : formula? content with
  | none => exact not_isCutOff_of_text r chain grid hformula
  | some formula =>
    rcases hawaits.exists_prepared hyields hgrid hcontent hformula with
      ⟨expression, after, hprepare, hreferences⟩
    rw [isCutOff_resolve_iff hformula hprepare, hreferences]
    rcases substitute_append (hawaits.before_plain hyields hshows) (Or.inr hbelow)
      (reference :: after) expression with hclosed | ⟨replaced, hrest⟩
    · simp [hclosed, IsCutOff]
    · rw [hrest, substitute]
      have hfollow := followed r (r.descend (r.maxDepth - chain.length)) chain reference grid
      generalize r.follow (r.descend (r.maxDepth - chain.length)) chain reference grid = result
        at hfollow
      cases hfollow with
      | closed _ => simp [IsCutOff]
      | outside _ => simp [IsCutOff]
      | ceiling _ _ _ hceiling => omega
      | cutOff hposition hcell _ _ hdescend =>
        rw [hawaits.names] at hposition
        cases hposition
        rw [descend_eq_resolve r reference.canonical hbelow] at hdescend
        exact absurd ⟨_, congrArg Resolution.outcome hdescend⟩ (hnext _ hcell)
      | settled hposition hcell _ _ hdescend hcut =>
        rw [hawaits.names] at hposition
        cases hposition
        rw [descend_eq_resolve r reference.canonical hbelow] at hdescend
        have hone : (chain ++ [reference.canonical]).length = chain.length + 1 := by simp
        have hsound := resolve_sound hyields hbasic (htrail.step hawaits) (by omega) hgrid hcell
        rw [hdescend] at hsound
        -- The awaited cell is looped, so what it shows is an error and ends the formula.
        have hcircular := (hsound.final hcut).unique (Or.inr ⟨hlooped, rfl⟩)
        rcases shownValue_circularText with ⟨error, hshown, _⟩
        rw [hcircular, hshown]
        rintro ⟨depth, hcut⟩
        cases hcut
        exact shownValue_ne_recursionLimit circularText depth hshown

/-- A chain that holds the token which a cell on a cycle waits for closes when it gets to that
cell. -/
theorem resolve_not_cutOff_of_leads (hyields : r.YieldsText) (hbasic : sheet.HasBasicReferences)
    {c next : Nat × Nat} {before : List Corner} {reference : Corner} {n : Nat}
    (hawaits : r.Awaits sheet c before reference next) (hloop : r.OnLoop sheet c)
    (hleads : r.Leads sheet n p c) (htrail : r.Trail sheet chain p)
    (hmem : reference.canonical ∈ chain) (hlength : chain.length + n ≤ r.maxDepth)
    (hfits : before = [] ∨ chain.length + n < r.maxDepth) (hgrid : r.Underway sheet grid)
    (hshows : r.ShowsGrounded sheet grid) {content : String}
    (hcontent : grid.cell? p.1 p.2 = some content) :
    ¬ IsCutOff (r.resolve chain content grid).outcome := by
  -- On the way to the cell the chain grows by one with each step.
  induction hleads generalizing chain content with
  | refl c =>
    cases hformula : formula? content with
    | none => exact not_isCutOff_of_text r chain grid hformula
    | some formula =>
      rcases hawaits.exists_prepared hyields hgrid hcontent hformula with
        ⟨expression, after, hprepare, hreferences⟩
      rw [isCutOff_resolve_iff hformula hprepare, hreferences]
      -- Back at the cell, the token that it waits for is in the chain.
      rcases substitute_append (hawaits.before_plain hyields hshows) hfits (reference :: after)
        expression with hclosed | ⟨replaced, hrest⟩
      · simp [hclosed, IsCutOff]
      · rw [hrest, substitute]
        simp [follow, hmem, IsCutOff]
  | step hstep hleads ih =>
    have hlooped := Looped.intro hleads hloop
    refine hstep.resolve_not_cutOff hyields hbasic hlooped htrail (by omega) hgrid hshows hcontent ?_
    intro content hcontent
    have hone : ∀ token : String, (chain ++ [token]).length = chain.length + 1 := by simp
    refine ih hawaits hloop (htrail.step hstep) (List.mem_append_left _ hmem) ?_ ?_ hcontent
    · rw [hone]
      omega
    · rw [hone]
      rcases hfits with hnil | hroom
      · exact Or.inl hnil
      · exact Or.inr (by omega)

/-- A cell on a cycle that is found is settled once all grounded cells are filled in. -/
theorem resolve_not_cutOff_of_onLoop (hyields : r.YieldsText) (hbasic : sheet.HasBasicReferences)
    (hloop : r.OnLoop sheet p) (hgrid : r.Underway sheet grid)
    (hshows : r.ShowsGrounded sheet grid) {content : String}
    (hcontent : grid.cell? p.1 p.2 = some content) :
    ¬ IsCutOff (r.resolve [] content grid).outcome := by
  rcases hloop with ⟨before, reference, q, n, hawaits, hleads, hlt, hfits⟩
  have hloop : r.OnLoop sheet p := ⟨before, reference, q, n, hawaits, hleads, hlt, hfits⟩
  refine hawaits.resolve_not_cutOff hyields hbasic (Looped.intro hleads hloop) (Trail.start p)
    (Nat.zero_lt_of_lt hlt) hgrid hshows hcontent fun content hcontent => ?_
  -- Around the cycle the chain begins with the token that closes it.
  refine resolve_not_cutOff_of_leads hyields hbasic hawaits hloop hleads
    ((Trail.start p).step hawaits) (by simp) ?_ ?_ hgrid hshows hcontent
  · simp only [List.nil_append, List.length_singleton]
    omega
  · simp only [List.nil_append, List.length_singleton]
    rcases hfits with hnil | hroom
    · exact Or.inl hnil
    · exact Or.inr (by omega)

end Resolver
end SheetMarkup
