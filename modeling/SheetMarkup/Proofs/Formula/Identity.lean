import SheetMarkup.Proofs.Expression.Result
import SheetMarkup.Proofs.Formula.Descent
import SheetMarkup.Proofs.Formula.Expansion

/-!
# Identity — the cells that a chain of references stands for

A reference is reported as circular where its token, in upper case, is in the chain: that is the only check
that gives this error, for the errors of cells come back as those that are passed on. The cell that the
reference names is then among the ancestors, for tokens that are equal in upper case name the same cell. The
long s breaks this. It is read as a letter and becomes an S in upper case, but does not count for the column,
so that a token with it may be taken for that of a cell elsewhere.

* `Resolver.follow_eq_circularReference_iff`: one reference that is reported as circular
* `exists_reference_of_circular`: a cell content that is reported as circular
* `circularReference_names_ancestor`: the cell that it names is an ancestor
* `not_same_cell_of_longS`: two cells that are taken for each other
-/

namespace SheetMarkup

/-- The corners of tokens are those whose token is found as a whole. -/
theorem Corner.isToken_iff_referenceAt? {corner : Corner} :
    corner.IsToken ↔ referenceAt? corner.token = some corner := by
  constructor
  · intro htoken
    simpa using referenceAt?_token htoken []
  · intro hfound
    exact (referenceAt?_eq_some hfound).1

theorem Corner.row?_of_position? {corner : Corner} {p : Nat × Nat} (h : corner.position? = some p) :
    corner.row? = some (p.1 + 1) := by
  unfold Corner.position? at h
  split at h
  · rename_i row column hrow hcolumn
    cases h
    exact hrow
  · cases h

namespace Resolver

variable {r : Resolver} {grid : Grid} {descend : Descent} {chain : List String}

/-! ## What is reported as circular -/

theorem writtenTo_ne_circularReference (result : Resolution) (row column : Nat) :
    (result.writtenTo row column).outcome ≠ .error .circularReference := by
  rcases result with ⟨outcome, grid⟩
  by_cases hcut : IsCutOff outcome
  · rcases hcut with ⟨depth, rfl⟩
    simp [Resolution.writtenTo]
  · rw [Resolution.writtenTo_of_not_isCutOff hcut]
    intro hcircular
    rcases exists_reason_of_shownValue hcircular with ⟨reason, hreason⟩
    cases hreason

theorem target_eq_circularReference_iff {reference : Corner} :
    r.target chain reference grid = .error .circularReference ↔ reference.canonical ∈ chain := by
  unfold target
  split
  · rename_i hmem
    exact iff_of_true rfl (by simpa using hmem)
  · rename_i hmem
    refine iff_of_false ?_ (by simpa using hmem)
    -- A reference that is not in the chain fails for other reasons.
    split
    · simp
    · split <;> simp

/-- A reference is reported as circular exactly if its token in upper case is in the chain. -/
theorem follow_eq_circularReference_iff {reference : Corner} :
    (r.follow descend chain reference grid).outcome = .error .circularReference ↔
      reference.canonical ∈ chain := by
  have htarget : r.target chain reference grid = .error .circularReference ↔
      reference.canonical ∈ chain := target_eq_circularReference_iff
  rw [follow_eq, ← htarget]
  cases r.target chain reference grid with
  | error error => simp
  | ok cell => exact iff_of_false (writtenTo_ne_circularReference _ _ _) (by simp)

theorem exists_mem_of_substitute {todo : List Corner} {expression : List Char}
    (h : (r.substitute descend chain todo expression grid).1 = .error .circularReference) :
    ∃ reference ∈ todo, reference.canonical ∈ chain := by
  induction todo generalizing expression grid with
  | nil => cases h
  | cons reference rest ih =>
    have hfollow : (r.follow descend chain reference grid).outcome = .error .circularReference ↔
        reference.canonical ∈ chain := follow_eq_circularReference_iff
    unfold substitute at h
    generalize r.follow descend chain reference grid = result at hfollow h
    rcases result with ⟨error | value, next⟩
    · cases h
      exact ⟨reference, List.mem_cons_self, hfollow.1 rfl⟩
    · rcases ih h with ⟨other, hother, hmem⟩
      exact ⟨other, List.mem_cons_of_mem reference hother, hmem⟩

/-- A cell content is reported as circular only if a reference of its formula is in the chain. -/
theorem exists_reference_of_circular {content : String}
    (h : (r.resolve chain content grid).outcome = .error .circularReference) :
    ∃ formula expression, formula? content = some formula ∧ prepare grid formula = .ok expression ∧
      ∃ reference ∈ references expression, reference.canonical ∈ chain := by
  cases hformula : formula? content with
  | none =>
    rw [resolve_of_text r chain grid hformula] at h
    cases h
  | some formula =>
    cases hprepare : prepare grid formula with
    | error error =>
      rw [resolve_of_refused r chain hformula hprepare] at h
      cases h
      rcases error_of_prepare hprepare with hother | hother <;> cases hother
    | ok expression =>
      have hsubstitute : (r.substitute (r.descend (r.maxDepth - chain.length)) chain
          (references expression) expression grid).1 = .error .circularReference := by
        rw [resolve_of_prepared r chain hformula hprepare] at h
        generalize r.substitute (r.descend (r.maxDepth - chain.length)) chain (references expression)
          expression grid = result at h
        rcases result with ⟨error | filled, next⟩
        · cases h
          rfl
        · rcases exists_failure_of_compute h with ⟨failure, _, hother⟩
          cases hother
      exact ⟨formula, expression, rfl, hprepare, exists_mem_of_substitute hsubstitute⟩

/-! ## The cells that are named -/

/-- Tokens in upper case stand for cells. Two tokens that are equal in upper case name cells in the same row,
and the same cell if the long s is in neither. So what is reported as circular is a reference to a cell that
one of the ancestors names. -/
theorem circularReference_names_ancestor (r : Resolver) :
    (∀ (first second : Corner) (p q : Nat × Nat), referenceAt? first.token = some first →
      referenceAt? second.token = some second → first.position? = some p →
      second.position? = some q → first.canonical = second.canonical →
      p.1 = q.1 ∧ (longS ∉ first.token → longS ∉ second.token → p = q)) ∧
    ∀ (ancestors : List Corner) (content : String) (grid : Grid),
      (∀ ancestor ∈ ancestors, referenceAt? ancestor.token = some ancestor) →
      (r.resolve (ancestors.map Corner.canonical) content grid).outcome = .error .circularReference →
      ∃ formula expression, formula? content = some formula ∧ prepare grid formula = .ok expression ∧
        ∃ reference ∈ references expression, ∃ ancestor ∈ ancestors,
          ancestor.canonical = reference.canonical ∧
          (longS ∉ ancestor.token → longS ∉ reference.token →
            ancestor.position? = reference.position?) := by
  have hletters : ∀ corner : Corner, longS ∉ corner.token → longS ∉ corner.letters := by
    intro corner hlong hmem
    exact hlong (by simp [Corner.token, hmem])
  constructor
  · intro first second p q hfirst hsecond hp hq hsame
    have htoken := Corner.isToken_iff_referenceAt?.2 hfirst
    have htoken' := Corner.isToken_iff_referenceAt?.2 hsecond
    constructor
    · have hrow := Corner.row?_eq_of_canonical_eq htoken htoken' hsame
      rw [Corner.row?_of_position? hp, Corner.row?_of_position? hq] at hrow
      exact Nat.succ.inj (Option.some.inj hrow)
    · intro hlong hlong'
      have hposition := Corner.position?_eq_of_canonical_eq htoken (hletters first hlong) htoken'
        (hletters second hlong') hsame
      rw [hp, hq] at hposition
      exact Option.some.inj hposition
  · intro ancestors content grid hancestors hcircular
    rcases exists_reference_of_circular hcircular with
      ⟨formula, expression, hformula, hprepare, reference, hreference, hmem⟩
    rcases List.mem_map.1 hmem with ⟨ancestor, hancestor, hsame⟩
    refine ⟨formula, expression, hformula, hprepare, reference, hreference, ancestor, hancestor,
      hsame, fun hlong hlong' => ?_⟩
    exact Corner.position?_eq_of_canonical_eq
      (Corner.isToken_iff_referenceAt?.2 (hancestors ancestor hancestor)) (hletters ancestor hlong)
      (isToken_of_mem_references hreference) (hletters reference hlong') hsame

/-- A reference in small letters to a cell that the chain has in capital ones. -/
theorem circularReference_names_ancestor_of_otherCase :
    let small : Corner := ⟨['a', 'B'], ['1']⟩
    let capital : Corner := ⟨['A', 'B'], ['1']⟩
    (∃ p q, small.position? = some p ∧ capital.position? = some q ∧ p = q) ∧
      ((Resolver.mk arithmetic 2).resolve [capital.canonical] "=1+[aB1]" [["5"]]).outcome =
        .error .circularReference ∧
      ∃ reference ∈ references "1+[aB1]".toList, reference.position? = some (0, 27) := by
  intro small capital
  have hnames := circularReference_names_ancestor (Resolver.mk arithmetic 2)
  have hcell := hnames.1 small capital (0, 27) (0, 27) (by decide) (by decide) (by decide) (by decide)
    (by decide)
  have hcircular : ((Resolver.mk arithmetic 2).resolve [capital.canonical] "=1+[aB1]" [["5"]]).outcome =
      .error .circularReference := rfl
  rcases hnames.2 [capital] "=1+[aB1]" [["5"]] (by decide) hcircular with
    ⟨formula, expression, hformula, hprepare, reference, hreference, ancestor, hancestor, _, hposition⟩
  cases hformula
  cases hprepare
  have hlong : ∀ reference ∈ references "1+[aB1]".toList, longS ∉ reference.token := by decide
  refine ⟨⟨(0, 27), (0, 27), by decide, by decide, hcell.2 (by decide) (by decide)⟩, hcircular,
    reference, hreference, ?_⟩
  rw [List.mem_singleton.1 hancestor] at hposition
  exact (hposition (by decide) (hlong reference hreference)).symm

/-- A reference to a cell in column AS that is taken for the one in column A that led to it, so the cell and
the one that refers to it show an error. -/
theorem not_same_cell_of_longS :
    let long : Corner := ⟨['A', longS], ['2']⟩
    let short : Corner := ⟨['A', 'S'], ['2']⟩
    let empty : List String := List.replicate 43 ""
    referenceAt? long.token = some long ∧ referenceAt? short.token = some short ∧
      long.canonical = short.canonical ∧
      long.position? = some (1, 0) ∧ short.position? = some (1, 44) ∧
      (Resolver.mk arithmetic defaultMaxDepth).evaluateTable
          [["=[A\u017F2]"], "=[AS2]" :: empty ++ ["5"]] =
        [[circularText], circularText :: empty ++ ["5"]] := by
  decide +kernel

end Resolver
end SheetMarkup
