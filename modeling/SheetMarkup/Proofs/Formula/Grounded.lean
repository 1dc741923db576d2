import SheetMarkup.Proofs.Formula.Reading

/-!
# Grounded cells — what the formulas of a sheet mean

The meaning of a sheet is fixed before anything is resolved. A cell is grounded when its value
follows from the sheet in finitely many evaluations. A formula that is not grounded waits for a
reference: all references before it stand for values, and the cell it names is not grounded either.
Following what is waited for leads around a cycle. A cycle is found when a chain of references gets
all the way around it before it reaches the ceiling.

* `Resolver.Grounded`: a cell and its value
* `Resolver.Awaits`, `Resolver.Leads`: what a formula waits for, and several steps of that
* `Resolver.Looped`: cells that lead to a cycle which is found
* `Grounded.unique`, `Grounded.not_looped`: there is one value, and no cycle
-/

namespace SheetMarkup
namespace Resolver

/-- The value of a cell that follows from the sheet: the text of a cell that is no formula, or the
result of a formula once the references that count show the values that follow. -/
inductive Grounded (r : Resolver) (sheet : Grid) : Nat × Nat → String → Prop where
  | text {p : Nat × Nat} {text : String} :
      sheet.cell? p.1 p.2 = some text → formula? text = none → Grounded r sheet p text
  | formula {p : Nat × Nat} {text : String} {formula : List Char} (shown : Grid) :
      sheet.cell? p.1 p.2 = some text → formula? text = some formula →
      shown.shape = sheet.shape →
      (∀ reference ∈ shown.consulted (shown.referencesIn formula), ∀ q value,
        reference.position? = some q → shown.cell? q.1 q.2 = some value →
        Grounded r sheet q value) →
      Grounded r sheet p (cellText (r.evaluateOnce shown formula))

def YieldsText (r : Resolver) : Prop :=
  ∀ expression value, r.evaluate expression = .ok value → formula? value = none

/-- The formula in a cell gets as far as a reference to a cell: the references before it stand for
values. -/
structure Awaits (r : Resolver) (sheet : Grid) (p : Nat × Nat) (before : List Corner)
    (reference : Corner) (q : Nat × Nat) : Prop where
  listed : ∃ after, sheet.referencesAt p = before ++ reference :: after
  before_shown : ∀ b ∈ before, ∃ s value, b.position? = some s ∧ r.Grounded sheet s value ∧
    shownValue value = .ok value
  names : reference.position? = some q
  inside : ∃ text, sheet.cell? q.1 q.2 = some text

inductive Leads (r : Resolver) (sheet : Grid) : Nat → Nat × Nat → Nat × Nat → Prop where
  | refl (p : Nat × Nat) : Leads r sheet 0 p p
  | step {n : Nat} {p q s : Nat × Nat} {before : List Corner} {reference : Corner} :
      r.Awaits sheet p before reference q → Leads r sheet n q s → Leads r sheet (n + 1) p s

/-- A cell on a cycle that a chain gets around before it reaches the ceiling. At the ceiling itself
nothing but a token that is in the chain already is looked at, so a cycle as long as the ceiling is
found only from a cell whose first reference belongs to it. -/
def OnLoop (r : Resolver) (sheet : Grid) (p : Nat × Nat) : Prop :=
  ∃ before reference q n, r.Awaits sheet p before reference q ∧ r.Leads sheet n q p ∧
    n < r.maxDepth ∧ (before = [] ∨ n + 1 < r.maxDepth)

def Looped (r : Resolver) (sheet : Grid) (p : Nat × Nat) : Prop :=
  ∃ n q, r.Leads sheet n p q ∧ r.OnLoop sheet q

variable {r : Resolver} {sheet : Grid} {p q s : Nat × Nat}

/-! ## One value -/

theorem Grounded.inside {value : String} (h : r.Grounded sheet p value) :
    ∃ text, sheet.cell? p.1 p.2 = some text := by
  cases h with
  | text htext _ => exact ⟨_, htext⟩
  | formula _ htext _ _ _ => exact ⟨_, htext⟩

theorem formula?_cellText_compute (hyields : r.YieldsText) (expression : List Char) :
    formula? (cellText (r.compute expression)) = none := by
  unfold compute
  cases heval : r.evaluate (String.ofList expression) with
  | error error => exact formula?_marker _
  | ok value => exact hyields _ _ heval

/-- The result of a formula does not look like a formula. -/
theorem formula?_cellText_evaluateOnce (hyields : r.YieldsText) (grid : Grid)
    (formula : List Char) : formula? (cellText (r.evaluateOnce grid formula)) = none := by
  unfold evaluateOnce
  split
  · exact formula?_marker _
  · split
    · exact formula?_marker _
    · exact formula?_cellText_compute hyields _

/-- The value of a grounded cell is no formula. -/
theorem Grounded.formula?_eq_none {value : String} (hyields : r.YieldsText)
    (h : r.Grounded sheet p value) : formula? value = none := by
  cases h with
  | text _ htext => exact htext
  | formula shown _ _ _ _ => exact formula?_cellText_evaluateOnce hyields shown _

theorem Grounded.unique {value other : String} (h : r.Grounded sheet p value)
    (hother : r.Grounded sheet p other) : value = other := by
  induction h generalizing other with
  | text htext hplain =>
    cases hother with
    | text htext' _ => exact Option.some.inj (htext.symm.trans htext')
    | formula _ htext' hformula' _ _ =>
      rw [htext] at htext'
      cases htext'
      rw [hplain] at hformula'
      cases hformula'
  | formula shown htext hformula hshape hgrounded ih =>
    cases hother with
    | text htext' hplain' =>
      rw [htext] at htext'
      cases htext'
      rw [hformula] at hplain'
      cases hplain'
    | formula shown' htext' hformula' hshape' hgrounded' =>
      rw [htext] at htext'
      cases htext'
      rw [hformula] at hformula'
      cases hformula'
      have hsame : shown.shape = shown'.shape := hshape.trans hshape'.symm
      -- A reference that both grids consult shows the same value in both, by the induction.
      rw [evaluateOnce_congr r hsame]
      intro reference hreference hreference'
      rw [Grid.referencesIn_congr hsame] at hreference'
      apply Grid.read_congr hsame
      intro q value value' hposition hvalue hvalue'
      apply ih reference hreference q value hposition hvalue
      exact hgrounded' reference hreference' q value' hposition hvalue'

/-! ## No cycle -/

/-- The references that a grounded formula waits for are among those it consults. -/
theorem Awaits.mem_consulted {before : List Corner} {reference : Corner} {shown : Grid}
    {text : String} {formula : List Char} (h : r.Awaits sheet p before reference q)
    (htext : sheet.cell? p.1 p.2 = some text) (hformula : formula? text = some formula)
    (hshape : shown.shape = sheet.shape)
    (hgrounded : ∀ reference ∈ shown.consulted (shown.referencesIn formula), ∀ q value,
      reference.position? = some q → shown.cell? q.1 q.2 = some value →
      r.Grounded sheet q value) :
    reference ∈ shown.consulted (shown.referencesIn formula) := by
  rcases h.listed with ⟨after, hlisted⟩
  rw [Grid.referencesAt_of_formula htext hformula, ← Grid.referencesIn_congr hshape] at hlisted
  rw [hlisted] at hgrounded ⊢
  apply mem_takeThrough_of_reached
  -- The references before stand for values, so none of them ends what is consulted.
  intro b hb hreached
  rcases h.before_shown b hb with ⟨s, value, hposition, hvalue, hshown⟩
  rcases hvalue.inside with ⟨text, hinside⟩
  rcases Grid.exists_cell?_of_shape_eq hshape.symm hinside with ⟨found, hfound⟩
  have heq : found = value :=
    (hgrounded b hreached s found hposition hfound).unique hvalue
  rw [Grid.read_of_cell hposition hfound, heq, hshown]
  rfl

theorem Awaits.exists_formula {before : List Corner} {reference : Corner}
    (h : r.Awaits sheet p before reference q) :
    ∃ text formula, sheet.cell? p.1 p.2 = some text ∧ formula? text = some formula := by
  rcases h.listed with ⟨after, hlisted⟩
  cases hformula : (sheet.cell? p.1 p.2).bind formula? with
  | none => simp [Grid.referencesAt, hformula] at hlisted
  | some formula =>
    rcases Option.bind_eq_some_iff.1 hformula with ⟨text, htext, hformula⟩
    exact ⟨text, formula, htext, hformula⟩

/-- What a grounded formula waits for is grounded. -/
theorem Grounded.exists_awaited {before : List Corner} {reference : Corner} {value : String}
    (h : r.Grounded sheet p value) (hawaits : r.Awaits sheet p before reference q) :
    ∃ found, r.Grounded sheet q found := by
  rcases hawaits.exists_formula with ⟨text, formula, htext, hformula⟩
  cases h with
  | text htext' hplain =>
    rw [htext] at htext'
    cases htext'
    rw [hformula] at hplain
    cases hplain
  | formula shown htext' hformula' hshape hgrounded =>
    rcases hawaits.inside with ⟨text, hinside⟩
    rcases Grid.exists_cell?_of_shape_eq hshape.symm hinside with ⟨found, hfound⟩
    have hmem := hawaits.mem_consulted htext' hformula' hshape hgrounded
    exact ⟨found, hgrounded reference hmem q found hawaits.names hfound⟩

/-- What a grounded cell waits for comes to an end. -/
theorem Grounded.acc {value : String} (h : r.Grounded sheet p value) :
    Acc (fun q p => ∃ before reference, r.Awaits sheet p before reference q) p := by
  induction h with
  | text htext hplain =>
    refine Acc.intro _ fun q hq => ?_
    rcases hq with ⟨before, reference, hawaits⟩
    rcases hawaits.exists_formula with ⟨text, formula, htext', hformula⟩
    rw [htext] at htext'
    cases htext'
    rw [hplain] at hformula
    cases hformula
  | formula shown htext hformula hshape hgrounded ih =>
    refine Acc.intro _ fun q hq => ?_
    rcases hq with ⟨before, reference, hawaits⟩
    -- What the formula waits for counts for it, so its value was derived before.
    have hmem := hawaits.mem_consulted htext hformula hshape hgrounded
    rcases hawaits.inside with ⟨text, hinside⟩
    rcases Grid.exists_cell?_of_shape_eq hshape.symm hinside with ⟨found, hfound⟩
    exact ih reference hmem q found hawaits.names hfound

theorem Leads.trans {m n : Nat} (h : r.Leads sheet m p q) (h' : r.Leads sheet n q s) :
    r.Leads sheet (m + n) p s := by
  induction h with
  | refl p => simpa using h'
  | step hawaits _ ih =>
    rw [Nat.add_right_comm]
    exact Leads.step hawaits (ih h')

theorem Awaits.leads {before : List Corner} {reference : Corner}
    (h : r.Awaits sheet p before reference q) : r.Leads sheet 1 p q :=
  Leads.step h (Leads.refl q)

/-- A cell from which waiting comes to an end is on no cycle. -/
theorem not_leads_self_of_acc
    (hacc : Acc (fun q p => ∃ before reference, r.Awaits sheet p before reference q) p) :
    ∀ n, ¬ r.Leads sheet (n + 1) p p := by
  induction hacc with
  | intro p _ ih =>
    intro n hloop
    cases hloop with
    -- A cycle through the cell is one through the next cell too.
    | step hawaits hleads => exact ih _ ⟨_, _, hawaits⟩ n (hleads.trans hawaits.leads)

theorem acc_of_leads {n : Nat} (h : r.Leads sheet n p q)
    (hacc : Acc (fun q p => ∃ before reference, r.Awaits sheet p before reference q) p) :
    Acc (fun q p => ∃ before reference, r.Awaits sheet p before reference q) q := by
  induction h with
  | refl p => exact hacc
  | step hawaits _ ih => exact ih (hacc.inv ⟨_, _, hawaits⟩)

/-- A grounded cell does not lead to a cycle. -/
theorem Grounded.not_looped {value : String} (h : r.Grounded sheet p value) :
    ¬ r.Looped sheet p := by
  rintro ⟨n, q, hleads, before, reference, next, m, hawaits, hloop, _, _⟩
  have hacc := acc_of_leads hleads h.acc
  exact not_leads_self_of_acc hacc m (Leads.step hawaits hloop)

/-! ## Looped cells -/

/-- A formula is looped if it waits for a looped cell. -/
theorem Looped.of_awaits {before : List Corner} {reference : Corner}
    (h : r.Awaits sheet p before reference q) (hlooped : r.Looped sheet q) : r.Looped sheet p := by
  rcases hlooped with ⟨n, s, hleads, hloop⟩
  exact ⟨n + 1, s, Leads.step h hleads, hloop⟩

theorem Looped.intro {n : Nat} (hleads : r.Leads sheet n p q) (hloop : r.OnLoop sheet q) :
    r.Looped sheet p :=
  ⟨n, q, hleads, hloop⟩

theorem OnLoop.looped (h : r.OnLoop sheet p) : r.Looped sheet p :=
  ⟨0, p, Leads.refl p, h⟩

/-- A looped cell waits for a looped cell. -/
theorem Looped.exists_awaits (h : r.Looped sheet p) :
    ∃ before reference q, r.Awaits sheet p before reference q ∧ r.Looped sheet q := by
  rcases h with ⟨n, s, hleads, hloop⟩
  cases hleads with
  | refl =>
    rcases hloop with ⟨before, reference, q, m, hawaits, hback, hfits⟩
    exact ⟨before, reference, q, hawaits, m, p, hback, before, reference, q, m, hawaits, hback,
      hfits⟩
  | step hawaits hleads => exact ⟨_, _, _, hawaits, _, s, hleads, hloop⟩

end Resolver
end SheetMarkup
