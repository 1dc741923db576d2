import SheetMarkup.Proofs.Formula.Grounded

/-!
# Grids underway — between a sheet and its final texts

While a sheet is resolved, each cell holds what the sheet has there or the text it ends with. A text
that is no formula is final and stays. The chain of references under which a formula is resolved is a
path of cells that wait for one another, so a chain that closes is a cycle of such cells.

* `Resolver.Final`: what a cell ends with, unless its chains are always cut off
* `Resolver.Underway`, `Underway.set`: grids on the way, and that writing final texts keeps them so
* `Resolver.Trail`: chains as they arise from references
* `Trail.onLoop`: a formula whose chain closes is on a cycle that is found
-/

namespace SheetMarkup

def Grid.Keeps (grid next : Grid) : Prop :=
  ∀ p : Nat × Nat, ∀ text, grid.cell? p.1 p.2 = some text → formula? text = none →
    next.cell? p.1 p.2 = some text

theorem Grid.Keeps.refl (grid : Grid) : grid.Keeps grid :=
  fun _ _ htext _ => htext

theorem Grid.Keeps.trans {grid next last : Grid} (h : grid.Keeps next) (h' : next.Keeps last) :
    grid.Keeps last :=
  fun p text htext hplain => h' p text (h p text htext hplain) hplain

/-- Formulas use basic letters only in their references, the ranges being expanded. -/
def Grid.HasBasicReferences (grid : Grid) : Prop :=
  ∀ p, ∀ reference ∈ grid.referencesAt p, reference.IsBasic

namespace Resolver

def circularText : String :=
  FormulaError.circularReference.marker

/-- The text that a cell ends with, unless all chains from it are cut off. -/
def Final (r : Resolver) (sheet : Grid) (p : Nat × Nat) (text : String) : Prop :=
  r.Grounded sheet p text ∨ (r.Looped sheet p ∧ text = circularText)

/-- A grid of the shape of a sheet whose cells hold the texts of the sheet or final ones. -/
structure Underway (r : Resolver) (sheet grid : Grid) : Prop where
  shape : grid.shape = sheet.shape
  cells : ∀ p : Nat × Nat, ∀ text, grid.cell? p.1 p.2 = some text →
    sheet.cell? p.1 p.2 = some text ∨ r.Final sheet p text

/-- A chain of references, each from the cell that the one before it names, and the cell named last.
A cell under no reference may be any. -/
inductive Trail (r : Resolver) (sheet : Grid) : List String → Nat × Nat → Prop where
  | start (p : Nat × Nat) : Trail r sheet [] p
  | step {chain : List String} {p q : Nat × Nat} {before : List Corner} {reference : Corner} :
      Trail r sheet chain p → r.Awaits sheet p before reference q →
      Trail r sheet (chain ++ [reference.canonical]) q

def IsCutOff {α : Type} (outcome : Except FormulaError α) : Prop :=
  ∃ depth, outcome = .error (.recursionLimit depth)

variable {r : Resolver} {sheet grid : Grid} {p q : Nat × Nat}

/-! ## Final texts -/

theorem formula?_circularText : formula? circularText = none :=
  formula?_marker _

theorem shownValue_circularText :
    ∃ error, shownValue circularText = .error error ∧ error.marker = circularText := by
  have hreason : FormulaError.circularReference.reason.toList =
      'C' :: "ircular Reference".toList := rfl
  have hblank : Text.isBlank 'C' = false := by decide
  exact ⟨_, shownValue_marker _, marker_propagated hreason hblank⟩

theorem Final.formula?_eq_none {text : String} (hyields : r.YieldsText)
    (h : r.Final sheet p text) : formula? text = none := by
  rcases h with hgrounded | ⟨_, rfl⟩
  · exact hgrounded.formula?_eq_none hyields
  · exact formula?_circularText

theorem Final.inside {text : String} (h : r.Final sheet p text) :
    ∃ content, sheet.cell? p.1 p.2 = some content := by
  rcases h with hgrounded | ⟨hlooped, _⟩
  · exact hgrounded.inside
  · rcases hlooped.exists_awaits with ⟨before, reference, q, hawaits, _⟩
    rcases hawaits.exists_formula with ⟨content, _, hcontent, _⟩
    exact ⟨content, hcontent⟩

theorem Final.unique {text other : String} (h : r.Final sheet p text)
    (hother : r.Final sheet p other) : text = other := by
  rcases h with hgrounded | ⟨hlooped, rfl⟩
  · rcases hother with hgrounded' | ⟨hlooped', _⟩
    · exact hgrounded.unique hgrounded'
    · exact absurd hlooped' hgrounded.not_looped
  · rcases hother with hgrounded' | ⟨_, rfl⟩
    · exact absurd hlooped hgrounded'.not_looped
    · rfl

/-! ## Grids underway -/

theorem Underway.refl (r : Resolver) (sheet : Grid) : r.Underway sheet sheet :=
  ⟨rfl, fun _ _ htext => Or.inl htext⟩

/-- A text that is no formula is final. -/
theorem Underway.final {text : String} (h : r.Underway sheet grid)
    (htext : grid.cell? p.1 p.2 = some text) (hplain : formula? text = none) :
    r.Final sheet p text := by
  rcases h.cells p text htext with hsheet | hfinal
  · exact Or.inl (Grounded.text hsheet hplain)
  · exact hfinal

/-- A formula is that of the sheet. -/
theorem Underway.cell_of_formula {text : String} {formula : List Char} (hyields : r.YieldsText)
    (h : r.Underway sheet grid) (htext : grid.cell? p.1 p.2 = some text)
    (hformula : formula? text = some formula) : sheet.cell? p.1 p.2 = some text := by
  rcases h.cells p text htext with hsheet | hfinal
  · exact hsheet
  · rw [hfinal.formula?_eq_none hyields] at hformula
    cases hformula

theorem Underway.inside_iff (h : r.Underway sheet grid) :
    (∃ text, grid.cell? p.1 p.2 = some text) ↔ ∃ text, sheet.cell? p.1 p.2 = some text := by
  constructor
  · rintro ⟨text, htext⟩
    exact Grid.exists_cell?_of_shape_eq h.shape htext
  · rintro ⟨text, htext⟩
    exact Grid.exists_cell?_of_shape_eq h.shape.symm htext

/-- Writing a final text keeps a grid underway and every other text. -/
theorem Underway.set {text : String} (h : r.Underway sheet grid)
    (hfinal : r.Final sheet p text) :
    r.Underway sheet (grid.set p.1 p.2 text) ∧ grid.Keeps (grid.set p.1 p.2 text) := by
  constructor
  · refine ⟨(Grid.shape_set grid p.1 p.2 text).trans h.shape, fun s found hfound => ?_⟩
    rcases Grid.cell?_set hfound with ⟨heq, rfl⟩ | hold
    · cases (show p = s from heq)
      exact Or.inr hfinal
    · exact h.cells s found hold
  · intro s found hfound hplain
    by_cases heq : p = s
    · subst heq
      -- A text that stood there already was final, so it is the one that is written.
      have hsame : found = text := (h.final hfound hplain).unique hfinal
      rw [hsame]
      exact Grid.cell?_set_self text hfound
    · rw [Grid.cell?_set_of_ne text heq]
      exact hfound

/-! ## Chains -/

/-- A token in a chain stands for a cell that leads to the end of the chain. -/
theorem Trail.exists_of_mem {chain : List String} {token : String} (h : r.Trail sheet chain p)
    (hmem : token ∈ chain) :
    ∃ s, ∃ reference ∈ sheet.referencesAt s, ∃ q n, reference.canonical = token ∧
      reference.position? = some q ∧ (∃ text, sheet.cell? q.1 q.2 = some text) ∧
      r.Leads sheet n q p ∧ n < chain.length := by
  induction h with
  | start p => cases hmem
  | step htrail hawaits ih =>
    rename_i chain p q before reference
    rcases List.mem_append.1 hmem with hchain | hlast
    · -- From further back it is one reference more to the new end.
      rcases ih hchain with ⟨s, first, hfirst, q', n, htoken, hposition, hinside, hleads, hlt⟩
      refine ⟨s, first, hfirst, q', n + 1, htoken, hposition, hinside,
        hleads.trans hawaits.leads, ?_⟩
      simp only [List.length_append, List.length_singleton]
      omega
    · -- The last token stands for the end of the chain itself.
      have htoken : token = reference.canonical := List.mem_singleton.1 hlast
      rcases hawaits.listed with ⟨after, hlisted⟩
      refine ⟨p, reference, ?_, q, 0, htoken.symm, hawaits.names, hawaits.inside, Leads.refl q, ?_⟩
      · rw [hlisted]
        simp
      · simp

theorem isToken_of_mem_referencesAt {reference : Corner} (h : reference ∈ sheet.referencesAt p) :
    reference.IsToken := by
  unfold Grid.referencesAt at h
  split at h
  · cases h
  · unfold Grid.referencesIn at h
    split at h
    · cases h
    · exact isToken_of_mem_references h

/-- A formula whose chain closes is on a cycle that is found. -/
theorem Trail.onLoop {chain : List String} {before after : List Corner} {reference : Corner}
    (hbasic : sheet.HasBasicReferences) (h : r.Trail sheet chain p)
    (hlength : chain.length ≤ r.maxDepth)
    (hlisted : sheet.referencesAt p = before ++ reference :: after)
    (hbefore : ∀ b ∈ before, ∃ s value, b.position? = some s ∧ r.Grounded sheet s value ∧
      shownValue value = .ok value)
    (hfits : before = [] ∨ chain.length < r.maxDepth) (hmem : reference.canonical ∈ chain) :
    r.OnLoop sheet p := by
  rcases h.exists_of_mem hmem with
    ⟨s, first, hfirst, q, n, htoken, hposition, hinside, hleads, hlt⟩
  have hreference : reference ∈ sheet.referencesAt p := by
    rw [hlisted]
    simp
  -- The token in the chain may be spelled in another case; basic letters make it the same cell.
  have hsame : first.position? = reference.position? :=
    Corner.position?_eq_of_canonical_eq (isToken_of_mem_referencesAt hfirst)
      (hbasic s _ hfirst).longS_not_mem (isToken_of_mem_referencesAt hreference)
      (hbasic p _ hreference).longS_not_mem htoken
  have hawaits : r.Awaits sheet p before reference q :=
    ⟨⟨after, hlisted⟩, hbefore, hsame ▸ hposition, hinside⟩
  refine ⟨before, reference, q, n, hawaits, hleads, by omega, ?_⟩
  rcases hfits with hnil | hbelow
  · exact Or.inl hnil
  · exact Or.inr (by omega)

end Resolver
end SheetMarkup
