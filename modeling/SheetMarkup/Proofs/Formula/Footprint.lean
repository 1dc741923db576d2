import SheetMarkup.Proofs.Formula.Cycles

/-!
# Footprint — the cells that a resolution may write

Resolving a formula writes only cells that references lead to from it. A cell that comes to a value, and not to
an error, leads to no cycle of references, so what was written for it cannot be a cell that leads to it. When a
chain is cut off, the references in front of the one that was cut off have come to values on every level, and
so all formulas from which references lead to the end of the chain are still there.

* `Grid.PartlySolved`: grids between a sheet and its values
* `Resolver.Footprint`: what resolving one cell may do to a grid
* `Resolver.follow_footprint`, `substitute_footprint`, `resolve_footprint`: one reference, several, and a cell
* `Resolver.exists_path_of_cutOff`: the formulas along a chain that was cut off
-/

namespace SheetMarkup

namespace Grid

/-- Waiting for what a cell refers to comes to an end. -/
abbrev Terminates (sheet : Grid) (p : Nat × Nat) : Prop :=
  Acc (fun q p => sheet.Refers p q) p

def Targets (sheet : Grid) (reference : Corner) (q : Nat × Nat) : Prop :=
  reference.position? = some q ∧ ∃ found, sheet.cell? q.1 q.2 = some found

/-- A grid in which some cells of a sheet have their values: the formulas left are those of the sheet, and a
value that is no error stands in a cell that leads to no cycle. -/
structure PartlySolved (sheet grid : Grid) : Prop where
  shape : grid.shape = sheet.shape
  formulas : ∀ p : Nat × Nat, ∀ text formula, grid.cell? p.1 p.2 = some text →
    formula? text = some formula → sheet.cell? p.1 p.2 = some text
  terminates : ∀ p : Nat × Nat, ∀ text, grid.cell? p.1 p.2 = some text → formula? text = none →
    isMarker text = false → sheet.Terminates p

def DiffersWithin (grid next : Grid) (property : Nat × Nat → Prop) : Prop :=
  ∀ s, property s ∨ next.cell? s.1 s.2 = grid.cell? s.1 s.2

variable {sheet grid next last : Grid} {p q s : Nat × Nat} {text : String}

/-! ## Grids that are partly solved -/

theorem PartlySolved.refl (sheet : Grid) : sheet.PartlySolved sheet where
  shape := rfl
  formulas _ _ _ htext _ := htext
  terminates p text htext hplain _ := by
    refine Acc.intro p fun q hrefers => ?_
    rcases hrefers with ⟨found, formula, hfound, hformula, _⟩
    rw [htext] at hfound
    cases hfound
    rw [hplain] at hformula
    cases hformula

theorem PartlySolved.set (h : sheet.PartlySolved grid) (hplain : formula? text = none)
    (hterminates : isMarker text = false → sheet.Terminates p) :
    sheet.PartlySolved (grid.set p.1 p.2 text) where
  shape := (shape_set grid p.1 p.2 text).trans h.shape
  formulas s found formula hfound hformula := by
    rcases cell?_set hfound with ⟨_, rfl⟩ | hold
    · rw [hplain] at hformula
      cases hformula
    · exact h.formulas s found formula hold hformula
  terminates s found hfound hplain' hvalue := by
    rcases cell?_set hfound with ⟨heq, rfl⟩ | hold
    · cases (show p = s from heq)
      exact hterminates hvalue
    · exact h.terminates s found hold hplain' hvalue

theorem PartlySolved.targets (h : sheet.PartlySolved grid) {reference : Corner}
    (hposition : reference.position? = some q) (hcell : grid.cell? q.1 q.2 = some text) :
    sheet.Targets reference q :=
  ⟨hposition, exists_cell?_of_shape_eq h.shape hcell⟩

/-! ## Cells that differ -/

theorem DiffersWithin.refl (grid : Grid) (property : Nat × Nat → Prop) :
    grid.DiffersWithin grid property :=
  fun _ => Or.inr rfl

theorem DiffersWithin.trans {property : Nat × Nat → Prop} (h : grid.DiffersWithin next property)
    (h' : next.DiffersWithin last property) : grid.DiffersWithin last property := by
  intro s
  rcases h' s with hlast | hlast
  · exact Or.inl hlast
  · rcases h s with hnext | hnext
    · exact Or.inl hnext
    · exact Or.inr (hlast.trans hnext)

theorem DiffersWithin.imp {property other : Nat × Nat → Prop} (h : grid.DiffersWithin next property)
    (himp : ∀ s, property s → other s) : grid.DiffersWithin next other :=
  fun s => (h s).imp_left (himp s)

theorem DiffersWithin.set (grid : Grid) (p : Nat × Nat) (text : String) :
    grid.DiffersWithin (grid.set p.1 p.2 text) (· = p) := by
  intro s
  by_cases heq : s = p
  · exact Or.inl heq
  · exact Or.inr (cell?_set_of_ne text (Ne.symm heq))

/-- A cell that terminates is not led back to. -/
theorem Terminates.not_transGen (h : sheet.Terminates q) (hpath : Relation.ReflTransGen sheet.Refers q s) :
    ¬ Relation.TransGen sheet.Refers s q :=
  fun hback => not_reachesCycle_of_acc h ⟨q, .refl, Relation.TransGen.trans_right hpath hback⟩

end Grid

namespace Resolver

variable {r : Resolver} {sheet grid : Grid} {descend : Descent} {p q : Nat × Nat} {chain : List String}

/-! ## What is written -/

/-- What resolving a cell may do: the grid is partly solved as before, the outcome is no formula, and a value
if the cell terminates, and only cells that the cell leads to are written. -/
structure Footprint (sheet : Grid) (p : Nat × Nat) (grid : Grid) (result : Resolution) : Prop where
  solved : sheet.PartlySolved result.grid
  plain : formula? (cellText result.outcome) = none
  terminates : isMarker (cellText result.outcome) = false → sheet.Terminates p
  within : grid.DiffersWithin result.grid (Relation.TransGen sheet.Refers p)

def Descent.HasFootprint (sheet : Grid) (descend : Descent) : Prop :=
  ∀ (chain : List String) (content : String) (p : Nat × Nat) (grid : Grid), sheet.PartlySolved grid →
    grid.cell? p.1 p.2 = some content → Footprint sheet p grid (descend chain content grid)

/-- An error has no footprint where nothing was written. -/
theorem Footprint.of_error (hgrid : sheet.PartlySolved grid) (p : Nat × Nat) (error : FormulaError) :
    Footprint sheet p grid ⟨.error error, grid⟩ where
  solved := hgrid
  plain := formula?_marker error
  terminates hvalue := by
    rw [cellText, isMarker_marker] at hvalue
    cases hvalue
  within := .refl grid _

/-- One reference: only the cell it names is written, and those this one leads to. -/
theorem follow_footprint (r : Resolver) (hdescend : descend.HasFootprint sheet) (chain : List String)
    (reference : Corner) (hgrid : sheet.PartlySolved grid) :
    sheet.PartlySolved (r.follow descend chain reference grid).grid ∧
      (∀ value, (r.follow descend chain reference grid).outcome = .ok value →
        ∃ q, sheet.Targets reference q ∧ sheet.Terminates q) ∧
      grid.DiffersWithin (r.follow descend chain reference grid).grid fun s =>
        ∃ q, sheet.Targets reference q ∧ Relation.ReflTransGen sheet.Refers q s := by
  have hfollow := followed r descend chain reference grid
  generalize r.follow descend chain reference grid = result at hfollow
  -- Only the last two ways descend; the first three leave the grid alone.
  cases hfollow with
  | closed _ => exact ⟨hgrid, by simp, .refl grid _⟩
  | outside _ => exact ⟨hgrid, by simp, .refl grid _⟩
  | ceiling _ _ _ _ => exact ⟨hgrid, by simp, .refl grid _⟩
  | cutOff hposition hcell hmem hbelow hnext =>
    rename_i q content depth next
    have hfootprint := hdescend (chain ++ [reference.canonical]) content q grid hgrid hcell
    rw [hnext] at hfootprint
    refine ⟨hfootprint.solved, by simp, hfootprint.within.imp fun s hpath => ?_⟩
    exact ⟨q, hgrid.targets hposition hcell, hpath.to_reflTransGen⟩
  | settled hposition hcell hmem hbelow hnext hcut =>
    rename_i q content outcome next
    have hfootprint := hdescend (chain ++ [reference.canonical]) content q grid hgrid hcell
    rw [hnext] at hfootprint
    have htargets := hgrid.targets hposition hcell
    refine ⟨hfootprint.solved.set hfootprint.plain hfootprint.terminates, ?_, ?_⟩
    · intro value hvalue
      exact ⟨q, htargets, hfootprint.terminates (isMarker_of_shownValue hvalue)⟩
    · -- The cells written on the way, and the cell that is named.
      have hway := hfootprint.within.imp fun s hpath =>
        (⟨q, htargets, hpath.to_reflTransGen⟩ :
          ∃ q, sheet.Targets reference q ∧ Relation.ReflTransGen sheet.Refers q s)
      refine hway.trans ((Grid.DiffersWithin.set next q _).imp fun s hsame => ?_)
      subst hsame
      exact ⟨s, htargets, .refl⟩

/-- Several references in turn. -/
theorem substitute_footprint (r : Resolver) (hdescend : descend.HasFootprint sheet) (chain : List String)
    (todo : List Corner) (expression : List Char) (hgrid : sheet.PartlySolved grid) :
    sheet.PartlySolved (r.substitute descend chain todo expression grid).2 ∧
      (∀ filled, (r.substitute descend chain todo expression grid).1 = .ok filled →
        ∀ reference ∈ todo, ∃ q, sheet.Targets reference q ∧ sheet.Terminates q) ∧
      grid.DiffersWithin (r.substitute descend chain todo expression grid).2 fun s =>
        ∃ reference ∈ todo, ∃ q, sheet.Targets reference q ∧
          Relation.ReflTransGen sheet.Refers q s := by
  induction todo generalizing expression grid with
  | nil => exact ⟨hgrid, by simp, .refl grid _⟩
  | cons reference rest ih =>
    rcases r.follow_footprint hdescend chain reference hgrid with ⟨hnext, hvalue, hwithin⟩
    -- What the first reference changes is reached from the list, and so is what the others change.
    have hhead := hwithin.imp fun s hpath =>
      (⟨reference, List.mem_cons_self, hpath⟩ : ∃ other ∈ reference :: rest, ∃ q,
        sheet.Targets other q ∧ Relation.ReflTransGen sheet.Refers q s)
    unfold substitute
    generalize r.follow descend chain reference grid = result at hnext hvalue hhead
    rcases result with ⟨error | value, next⟩
    · exact ⟨hnext, by simp, hhead⟩
    · rcases ih (Text.replaceAll reference.token value.toList expression) hnext with
        ⟨hlast, hvalues, hrest⟩
      refine ⟨hlast, ?_, hhead.trans (hrest.imp ?_)⟩
      · intro filled hfilled other hother
        rcases List.mem_cons.1 hother with rfl | hother
        · exact hvalue value rfl
        · exact hvalues filled hfilled other hother
      · rintro s ⟨other, hother, hpath⟩
        exact ⟨other, List.mem_cons_of_mem reference hother, hpath⟩

/-- The cells that the references of a formula name are those that its cell refers to. -/
theorem refers_of_prepare (hgrid : sheet.PartlySolved grid) {content : String}
    {formula expression : List Char} (hcontent : grid.cell? p.1 p.2 = some content)
    (hformula : formula? content = some formula) (hprepare : prepare grid formula = .ok expression) :
    sheet.Refers p q ↔ ∃ reference ∈ references expression, sheet.Targets reference q := by
  have hsheet := hgrid.formulas p content formula hcontent hformula
  have hprepare' : prepare sheet formula = .ok expression :=
    (prepare_congr hgrid.shape formula).symm.trans hprepare
  have hmentioned : sheet.mentioned formula = references expression := by
    rw [Grid.mentioned_eq_referencesIn hprepare', Grid.referencesIn, hprepare']
  constructor
  · rintro ⟨text, formula', htext, hformula', ⟨reference, hmem, hposition⟩, hinside⟩
    rw [hsheet] at htext
    cases htext
    rw [hformula] at hformula'
    cases hformula'
    exact ⟨reference, hmentioned ▸ hmem, hposition, hinside⟩
  · rintro ⟨reference, hmem, hposition, hinside⟩
    exact ⟨content, formula, hsheet, hformula, ⟨reference, hmentioned ▸ hmem, hposition⟩, hinside⟩

theorem resolveWith_hasFootprint (hyields : r.YieldsText) (hdescend : descend.HasFootprint sheet) :
    Descent.HasFootprint sheet (r.resolveWith descend) := by
  intro chain content p grid hgrid hcontent
  cases hformula : formula? content with
  | none =>
    rw [resolveWith_of_text r descend chain grid hformula]
    exact ⟨hgrid, hformula, hgrid.terminates p content hcontent hformula, .refl grid _⟩
  | some formula =>
    rw [resolveWith_of_formula r descend chain grid hformula]
    cases hprepare : prepare grid formula with
    | error error => exact Footprint.of_error hgrid p error
    | ok expression =>
      have hrefers := @refers_of_prepare sheet grid p
      rcases r.substitute_footprint hdescend chain (references expression) expression hgrid with
        ⟨hnext, hvalues, hwithin⟩
      have hreached := hwithin.imp fun s hpath => by
        rcases hpath with ⟨reference, hmem, q, htargets, hpath⟩
        have hfirst : sheet.Refers p q :=
          (hrefers hgrid hcontent hformula hprepare).2 ⟨reference, hmem, htargets⟩
        exact Relation.TransGen.head' hfirst hpath
      dsimp only
      generalize r.substitute descend chain (references expression) expression grid = result
        at hnext hvalues hreached
      rcases result with ⟨error | filled, next⟩
      · have herror := Footprint.of_error hnext p error
        exact ⟨hnext, herror.plain, herror.terminates, hreached⟩
      · refine ⟨hnext, formula?_cellText_compute hyields filled, fun _ => ?_, hreached⟩
        -- All references have come to values, so what the cell refers to terminates.
        refine Acc.intro p fun q hrefer => ?_
        rcases (hrefers hgrid hcontent hformula hprepare).1 hrefer with ⟨reference, hmem, htargets⟩
        rcases hvalues filled rfl reference hmem with ⟨q', htargets', hterminates⟩
        have hsame : q = q' := Option.some.inj (htargets.1.symm.trans htargets'.1)
        exact hsame ▸ hterminates

theorem descend_hasFootprint (hyields : r.YieldsText) (levels : Nat) :
    Descent.HasFootprint sheet (r.descend levels) := by
  induction levels with
  | zero => exact fun _ _ p _ hgrid _ => Footprint.of_error hgrid p _
  | succ levels ih => exact resolveWith_hasFootprint hyields ih

/-- Resolving a cell writes only cells that references lead to from it. -/
theorem resolve_footprint (hyields : r.YieldsText) (chain : List String) {content : String}
    (hgrid : sheet.PartlySolved grid) (hcontent : grid.cell? p.1 p.2 = some content) :
    Footprint sheet p grid (r.resolve chain content grid) :=
  resolveWith_hasFootprint hyields (descend_hasFootprint hyields _) chain content p grid hgrid hcontent

/-! ## Chains that are cut off -/

/-- Where several references are cut off, there is one among them that is. Those in front of it have not
written any cell that leads to all of them. -/
theorem exists_reference_of_cutOff (r : Resolver) (hdescend : descend.HasFootprint sheet)
    (chain : List String) (todo : List Corner) (expression : List Char)
    (hgrid : sheet.PartlySolved grid)
    (hcut : IsCutOff (r.substitute descend chain todo expression grid).1) :
    ∃ reference ∈ todo, ∃ mid, sheet.PartlySolved mid ∧
      IsCutOff (r.follow descend chain reference mid).outcome ∧
      (r.substitute descend chain todo expression grid).2 =
        (r.follow descend chain reference mid).grid ∧
      ∀ s : Nat × Nat, (∀ other ∈ todo, ∀ q, sheet.Targets other q →
          Relation.TransGen sheet.Refers s q) → mid.cell? s.1 s.2 = grid.cell? s.1 s.2 := by
  induction todo generalizing expression grid with
  | nil =>
    rcases hcut with ⟨depth, hlimit⟩
    cases hlimit
  | cons reference rest ih =>
    rcases r.follow_footprint hdescend chain reference hgrid with ⟨hnext, hvalue, hwithin⟩
    unfold substitute at hcut ⊢
    cases hresult : r.follow descend chain reference grid with
    | mk outcome next =>
      rw [hresult] at hcut hnext hvalue hwithin
      cases outcome with
      | error error =>
        refine ⟨reference, List.mem_cons_self, grid, hgrid, ?_, by rw [hresult], fun _ _ => rfl⟩
        rcases hcut with ⟨depth, hlimit⟩
        cases hlimit
        rw [hresult]
        exact ⟨depth, rfl⟩
      | ok value =>
        rcases ih (Text.replaceAll reference.token value.toList expression) hnext hcut with
          ⟨other, hother, mid, hmid, hcut', hlast, hsame⟩
        refine ⟨other, List.mem_cons_of_mem reference hother, mid, hmid, hcut', hlast, ?_⟩
        intro s hleads
        rw [hsame s fun other hother => hleads other (List.mem_cons_of_mem reference hother)]
        -- The first reference came to a value, so its cell does not lead back to itself.
        rcases hvalue value rfl with ⟨q, htargets, hterminates⟩
        rcases hwithin s with ⟨q', htargets', hpath⟩ | hunchanged
        · have hq : q' = q := Option.some.inj (htargets'.1.symm.trans htargets.1)
          subst hq
          exact absurd (hleads reference List.mem_cons_self q' htargets)
            (hterminates.not_transGen hpath)
        · exact hunchanged

/-- A resolution that was cut off leaves the formulas that lead to its cell, and those along a path of
references from its cell that is as long as the chain has room for. -/
structure LeavesPath (r : Resolver) (sheet : Grid) (chain : List String) (p : Nat × Nat)
    (grid next : Grid) : Prop where
  path : ∃ path : List (Nat × Nat), (p :: path).IsChain sheet.Refers ∧
    path.length = r.maxDepth - chain.length ∧ ∀ s ∈ p :: path, next.HasFormulaAt s
  leading : ∀ s, Relation.ReflTransGen sheet.Refers s p → grid.HasFormulaAt s → next.HasFormulaAt s

/-- One level of the descent: the path begins with the reference that was cut off. -/
theorem leavesPath_of_descend (hyields : r.YieldsText)
    (hdescend : ∀ token (q : Nat × Nat) content mid, chain.length < r.maxDepth →
      sheet.PartlySolved mid → mid.cell? q.1 q.2 = some content →
      IsCutOff (r.resolve (chain ++ [token]) content mid).outcome →
      r.LeavesPath sheet (chain ++ [token]) q mid (r.resolve (chain ++ [token]) content mid).grid)
    {content : String} (hgrid : sheet.PartlySolved grid) (hcontent : grid.cell? p.1 p.2 = some content)
    (hcut : IsCutOff (r.resolve chain content grid).outcome) :
    r.LeavesPath sheet chain p grid (r.resolve chain content grid).grid := by
  cases hformula : formula? content with
  | none => exact absurd hcut (not_isCutOff_of_text r chain grid hformula)
  | some formula =>
    cases hprepare : prepare grid formula with
    | error error =>
      rw [resolve_of_refused r chain hformula hprepare] at hcut
      exact absurd hcut (not_isCutOff_of_prepare hprepare)
    | ok expression =>
      have hrefers := @refers_of_prepare sheet grid p
      rw [isCutOff_resolve_iff hformula hprepare] at hcut
      rcases r.exists_reference_of_cutOff (descend_hasFootprint hyields _) chain _ expression hgrid hcut
        with ⟨reference, hmem, mid, hmid, hfollow, hlast, hsame⟩
      have hgrid' : (r.resolve chain content grid).grid =
          (r.follow (r.descend (r.maxDepth - chain.length)) chain reference mid).grid := by
        rw [← hlast, resolve_of_prepared r chain hformula hprepare]
        generalize r.substitute (r.descend (r.maxDepth - chain.length)) chain (references expression)
          expression grid = result
        rcases result with ⟨error | filled, next⟩ <;> rfl
      -- A formula that leads to the cell is there when the reference is followed.
      have hstays : ∀ s, Relation.ReflTransGen sheet.Refers s p → grid.HasFormulaAt s →
          mid.HasFormulaAt s := by
        rintro s hpath ⟨text, found, htext, hfound⟩
        refine ⟨text, found, ?_, hfound⟩
        rw [hsame s fun other hother q htargets => ?_, htext]
        exact Relation.TransGen.tail' hpath
          ((hrefers hgrid hcontent hformula hprepare).2 ⟨other, hother, htargets⟩)
      have hself : mid.HasFormulaAt p := hstays p .refl ⟨content, formula, hcontent, hformula⟩
      rw [hgrid']
      have hfollowed := followed r (r.descend (r.maxDepth - chain.length)) chain reference mid
      generalize r.follow (r.descend (r.maxDepth - chain.length)) chain reference mid = result
        at hfollow hfollowed
      cases hfollowed with
      | closed _ => simp [IsCutOff] at hfollow
      | outside _ => simp [IsCutOff] at hfollow
      | settled _ _ _ _ _ _ =>
        rcases hfollow with ⟨depth, hlimit⟩
        exact absurd hlimit (shownValue_ne_recursionLimit _ depth)
      | ceiling _ _ _ hceiling =>
        refine ⟨⟨[], .singleton p, ?_, ?_⟩, hstays⟩
        · simp only [List.length_nil]
          omega
        · intro s hs
          rw [List.mem_singleton.1 hs]
          exact hself
      | cutOff hposition hcell hnot hbelow hnext =>
        rename_i q found depth next
        rw [descend_eq_resolve r reference.canonical hbelow] at hnext
        have hbelow' := hdescend reference.canonical q found mid hbelow hmid hcell
          (by rw [hnext]; exact ⟨depth, rfl⟩)
        rw [hnext] at hbelow'
        have hrefer : sheet.Refers p q := (hrefers hgrid hcontent hformula hprepare).2
          ⟨reference, hmem, hmid.targets hposition hcell⟩
        have hleading : ∀ s, Relation.ReflTransGen sheet.Refers s p → grid.HasFormulaAt s →
            next.HasFormulaAt s :=
          fun s hpath hs => hbelow'.leading s (hpath.tail hrefer) (hstays s hpath hs)
        rcases hbelow'.path with ⟨path, hchain, hlength, hformulas⟩
        refine ⟨⟨q :: path, List.isChain_cons_cons.2 ⟨hrefer, hchain⟩, ?_, ?_⟩, hleading⟩
        · simp only [List.length_append, List.length_singleton] at hlength
          simp only [List.length_cons]
          omega
        · intro s hs
          rcases List.mem_cons.1 hs with rfl | hs
          · exact hleading s .refl ⟨content, formula, hcontent, hformula⟩
          · exact hformulas s hs

/-- Where a chain is cut off, the formulas along it are still there. -/
theorem exists_path_of_cutOff (hyields : r.YieldsText) {content : String}
    (hgrid : sheet.PartlySolved grid) (hcontent : grid.cell? p.1 p.2 = some content)
    (hcut : IsCutOff (r.resolve chain content grid).outcome) :
    r.LeavesPath sheet chain p grid (r.resolve chain content grid).grid := by
  induction chain using r.chain_induction generalizing p grid content with
  | step chain ih =>
    refine leavesPath_of_descend hyields ?_ hgrid hcontent hcut
    intro token q content mid hbelow hmid hcell hcut
    exact ih token hbelow hmid hcell hcut

end Resolver
end SheetMarkup
