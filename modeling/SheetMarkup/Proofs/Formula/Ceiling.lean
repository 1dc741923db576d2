import SheetMarkup.Proofs.Expression.Result
import SheetMarkup.Proofs.Formula.Settling

/-!
# Ceiling — how long chains may get does not matter below it

The ceiling is looked at only where a chain has reached it, and the failure there is passed on by every
level above without being written anywhere. So a resolution that ends in anything else never reached the
ceiling, and goes the same way under a higher one, from reference to reference and from write to write.

* `Resolver.Below`: resolvers that differ in their ceilings
* `Repeated`: a result that another resolver gives too, unless it was cut off
* `follow_repeated`, `substitute_repeated`: one reference, and several in turn
* `resolve_eq_of_le`: a cell content under two ceilings
-/

namespace SheetMarkup

/-- Of two results the second is the first one, unless that one was cut off. -/
def Repeated (result result' : Resolution) : Prop :=
  ¬ Resolver.IsCutOff result.outcome → result' = result

theorem isCutOff_writtenTo_iff {result : Resolution} {row column : Nat} :
    Resolver.IsCutOff (result.writtenTo row column).outcome ↔ Resolver.IsCutOff result.outcome := by
  rcases result with ⟨outcome, grid⟩
  by_cases hcut : Resolver.IsCutOff outcome
  · rcases hcut with ⟨depth, rfl⟩
    exact Iff.rfl
  · rw [Resolution.writtenTo_of_not_isCutOff hcut]
    refine iff_of_false ?_ hcut
    rintro ⟨depth, hshown⟩
    exact shownValue_ne_recursionLimit _ depth hshown

namespace Resolver

/-- Resolvers with the same evaluator, the second one with a ceiling that is not lower. -/
structure Below (r r' : Resolver) : Prop where
  evaluate : r'.evaluate = r.evaluate
  maxDepth : r.maxDepth ≤ r'.maxDepth

variable {r r' : Resolver} {chain : List String} {grid : Grid}

/-! ## One reference -/

/-- A reference has the same target under both ceilings, or the chain has reached the lower one. -/
theorem Below.target_eq (h : Below r r') (chain : List String) (reference : Corner) (grid : Grid) :
    IsCutOff (r.target chain reference grid) ∨
      r'.target chain reference grid = r.target chain reference grid := by
  have hceiling := h.maxDepth
  unfold target
  split
  · exact Or.inr rfl
  · split
    · exact Or.inr rfl
    · split
      · exact Or.inl ⟨_, rfl⟩
      · rw [if_neg (by omega)]
        exact Or.inr rfl

/-- Only a chain below the ceiling has a target. -/
theorem length_lt_of_target {reference : Corner} {cell : Nat × Nat × String}
    (h : r.target chain reference grid = .ok cell) : chain.length < r.maxDepth := by
  unfold target at h
  split at h
  · cases h
  · split at h
    · cases h
    · split at h
      · cases h
      · omega

theorem follow_repeated (h : Below r r') {descend descend' : Descent} {reference : Corner}
    (hdescend : ∀ content, chain.length < r.maxDepth →
      Repeated (descend (chain ++ [reference.canonical]) content grid)
        (descend' (chain ++ [reference.canonical]) content grid)) :
    Repeated (r.follow descend chain reference grid) (r'.follow descend' chain reference grid) := by
  intro hcut
  rw [follow_eq] at hcut ⊢
  rw [follow_eq]
  cases htarget : r.target chain reference grid with
  | error error =>
    rw [htarget] at hcut
    rcases h.target_eq chain reference grid with ⟨depth, hlimit⟩ | hsame
    · rw [htarget] at hlimit
      cases hlimit
      exact absurd ⟨_, rfl⟩ hcut
    · rw [hsame, htarget]
  | ok cell =>
    rcases cell with ⟨row, column, content⟩
    rw [htarget] at hcut
    rcases h.target_eq chain reference grid with ⟨depth, hlimit⟩ | hsame
    · rw [htarget] at hlimit
      cases hlimit
    · -- The target is resolved below the ceiling, and what is written there is the same.
      have hnext := hdescend content (length_lt_of_target htarget)
        fun hdeep => hcut (isCutOff_writtenTo_iff.2 hdeep)
      rw [hsame, htarget]
      simp only [hnext]

/-! ## Several references -/

theorem substitute_repeated (h : Below r r') {descend descend' : Descent}
    (hdescend : ∀ token content grid, chain.length < r.maxDepth →
      Repeated (descend (chain ++ [token]) content grid) (descend' (chain ++ [token]) content grid))
    (todo : List Corner) (expression : List Char) (grid : Grid)
    (hcut : ¬ IsCutOff (r.substitute descend chain todo expression grid).1) :
    r'.substitute descend' chain todo expression grid =
      r.substitute descend chain todo expression grid := by
  induction todo generalizing expression grid with
  | nil => rfl
  | cons reference rest ih =>
    have hfollow := follow_repeated h fun content hlt =>
      hdescend reference.canonical content grid hlt
    unfold substitute at hcut ⊢
    -- A reference that is cut off ends the substitution, so this one is not.
    have hhead : ¬ IsCutOff (r.follow descend chain reference grid).outcome := by
      rintro ⟨depth, hlimit⟩
      generalize r.follow descend chain reference grid = result at hcut hlimit
      rcases result with ⟨outcome, next⟩
      cases hlimit
      exact hcut ⟨depth, rfl⟩
    rw [hfollow hhead]
    generalize r.follow descend chain reference grid = result at hcut
    rcases result with ⟨error | value, next⟩
    · rfl
    · exact ih _ next hcut

/-! ## Cell contents -/

theorem Below.compute_eq (h : Below r r') (expression : List Char) :
    r'.compute expression = r.compute expression := by
  simp only [compute, h.evaluate]

/-- One level of the descent: a cell is resolved alike if the cells it refers to are. -/
theorem resolve_repeated_of_descend (h : Below r r')
    (hdescend : ∀ token content grid, chain.length < r.maxDepth →
      Repeated (r.resolve (chain ++ [token]) content grid)
        (r'.resolve (chain ++ [token]) content grid)) (content : String) (grid : Grid) :
    Repeated (r.resolve chain content grid) (r'.resolve chain content grid) := by
  intro hcut
  cases hformula : formula? content with
  | none => rw [resolve_of_text r chain grid hformula, resolve_of_text r' chain grid hformula]
  | some formula =>
    cases hprepare : prepare grid formula with
    | error error =>
      rw [resolve_of_refused r chain hformula hprepare, resolve_of_refused r' chain hformula hprepare]
    | ok expression =>
      rw [isCutOff_resolve_iff hformula hprepare] at hcut
      have hceiling := h.maxDepth
      have hbelow : ∀ token content grid, chain.length < r.maxDepth →
          Repeated (r.descend (r.maxDepth - chain.length) (chain ++ [token]) content grid)
            (r'.descend (r'.maxDepth - chain.length) (chain ++ [token]) content grid) := by
        intro token content grid hlt
        rw [descend_eq_resolve r token hlt, descend_eq_resolve r' token (by omega)]
        exact hdescend token content grid hlt
      have hsubstitute := substitute_repeated h hbelow (references expression) expression grid hcut
      rw [resolve_of_prepared r chain hformula hprepare,
        resolve_of_prepared r' chain hformula hprepare, hsubstitute]
      simp only [h.compute_eq]

theorem resolve_repeated (h : Below r r') (chain : List String) (content : String) (grid : Grid) :
    Repeated (r.resolve chain content grid) (r'.resolve chain content grid) := by
  induction chain using r.chain_induction generalizing content grid with
  | step chain ih =>
    exact resolve_repeated_of_descend h (fun token content grid hlt => ih token hlt content grid)
      content grid

/-- The ceiling is transparent. A cell content that is resolved without being cut off has the same outcome
under every higher ceiling and leaves the same grid behind. -/
theorem resolve_eq_of_le (evaluate : Evaluator) {depth depth' : Nat} (chain : List String)
    (content : String) (grid : Grid) (hle : depth ≤ depth')
    (hcut : ¬ IsCutOff ((Resolver.mk evaluate depth).resolve chain content grid).outcome) :
    (Resolver.mk evaluate depth').resolve chain content grid =
      (Resolver.mk evaluate depth).resolve chain content grid := by
  have hbelow : Below (Resolver.mk evaluate depth) (Resolver.mk evaluate depth') := ⟨rfl, hle⟩
  exact resolve_repeated hbelow chain content grid hcut

/-- A chain that ends right at the lower ceiling, and is cut off under a ceiling that is lower by one. -/
theorem resolve_eq_of_le_atCeiling :
    let grid : Grid := [["=[B1]", "=[c1]", "7"]]
    let low := (Resolver.mk arithmetic 4).resolve ["[E1]"] "=[A1]" grid
    let high := (Resolver.mk arithmetic 256).resolve ["[E1]"] "=[A1]" grid
    cellText ((Resolver.mk arithmetic 3).resolve ["[E1]"] "=[A1]" grid).outcome =
        (FormulaError.recursionLimit 3).marker ∧
      ¬ IsCutOff low.outcome ∧ high = low ∧ high.outcome = .ok "7" ∧ high.grid = [["7", "7", "7"]] := by
  intro grid low high
  have hlow : low.outcome = .ok "7" := eq_ok_of_toOption (by decide +kernel)
  have hleft : low.grid = [["7", "7", "7"]] := by decide +kernel
  have hcut : ¬ IsCutOff low.outcome := by
    rw [hlow]
    rintro ⟨depth, hlimit⟩
    cases hlimit
  have hsame : high = low :=
    resolve_eq_of_le arithmetic ["[E1]"] "=[A1]" grid (show 4 ≤ 256 by decide) hcut
  rw [hsame]
  exact ⟨by decide +kernel, hcut, rfl, hlow, hleft⟩

end Resolver
end SheetMarkup
