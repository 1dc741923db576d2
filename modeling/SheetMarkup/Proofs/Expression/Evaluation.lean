import SheetMarkup.Expression.Machine
import SheetMarkup.Proofs.Expression.Soundness

/-!
# Evaluation — the value stack computes the parse tree

A parse tree has a value of its own: operands are evaluated from left to right, then the operation is
applied. The machine does the same, since the instructions of a tree leave the values from before alone
and put the value of the tree on top of them. How high the stack is at each instruction can be told from
the instructions alone, so no operand is ever missing.

* `Tree.evaluate`: the value of a parse tree
* `Tree.runInstrs_postorder`: the instructions of a tree push its value
* `heightAfter`: the height of the stack, without the values
* `runPostfix_eq_evaluate`: what becomes of the instructions of an expression
-/

namespace SheetMarkup

/-! ## Values of trees -/

mutual

/-- The value of a tree, or the first error: operands come first, from left to right. The number of
arguments of a call is checked when they have their values. -/
def Tree.evaluate : Tree → Except ExpressionError Value
  | .number x => .ok (.ofFloat x)
  | .constant x => .ok (.ofFloat x)
  | .negate operand => operand.evaluate.map Value.negate
  | .plus operand => operand.evaluate
  | .binary op left right =>
    left.evaluate.bind fun v => right.evaluate.bind fun w => op.apply v w
  | .group inner => inner.evaluate
  | .call f arguments =>
    (evaluateAll arguments).bind fun values =>
      if f.arity.accepts values.length then f.apply values
      else .error (.wrongArgumentCount f.name values.length)

def evaluateAll : List Tree → Except ExpressionError (List Value)
  | [] => .ok []
  | tree :: trees => tree.evaluate.bind fun v => (evaluateAll trees).map (v :: ·)

end

theorem length_of_evaluateAll {trees : List Tree} {values : List Value}
    (h : evaluateAll trees = .ok values) : values.length = trees.length := by
  induction trees generalizing values with
  | nil =>
    simp only [evaluateAll, Except.ok.injEq] at h
    simp [← h]
  | cons tree trees ih =>
    simp only [evaluateAll] at h
    cases htree : tree.evaluate with
    | error error => simp [htree, Except.bind] at h
    | ok v =>
      cases htrees : evaluateAll trees with
      | error error => simp [htree, htrees, Except.bind, Except.map] at h
      | ok more =>
        simp only [htree, htrees, Except.bind, Except.map, Except.ok.injEq] at h
        simp [← h, ih htrees]

/-! ## Runs -/

/-- A call on the values of its arguments, the last of them on top. -/
theorem step_call (f : SheetFunction) (arguments values : List Value) :
    (Instr.call f arguments.length).step (arguments.reverse ++ values) =
      (if f.arity.accepts arguments.length then f.apply arguments
        else .error (.wrongArgumentCount f.name arguments.length)).map (· :: values) := by
  have hlength : ¬ (arguments.reverse ++ values).length < arguments.length := by simp
  have htake : ((arguments.reverse ++ values).take arguments.length).reverse = arguments := by
    rw [List.take_left' (by simp), List.reverse_reverse]
  have hdrop : (arguments.reverse ++ values).drop arguments.length = values :=
    List.drop_left' (by simp)
  cases haccepts : f.arity.accepts arguments.length with
  | false => simp [Instr.step, haccepts, Except.map]
  | true => simp only [Instr.step, haccepts, hlength, htake, hdrop]; rfl

mutual

/-- The instructions of a tree put its value on top of the stack, or end in its error. -/
theorem Tree.runInstrs_postorder (tree : Tree) (rest : List Instr) (values : List Value) :
    runInstrs (tree.postorder ++ rest) values =
      tree.evaluate.bind fun v => runInstrs rest (v :: values) := by
  cases tree with
  | number x => rfl
  | constant x => rfl
  | negate operand =>
    rw [Tree.postorder, List.append_assoc, operand.runInstrs_postorder, Tree.evaluate]
    cases operand.evaluate <;> rfl
  | plus operand => rw [Tree.postorder, operand.runInstrs_postorder, Tree.evaluate]
  | binary op left right =>
    rw [Tree.postorder, List.append_assoc, List.append_assoc, left.runInstrs_postorder,
      Tree.evaluate]
    cases left.evaluate with
    | error error => rfl
    | ok v =>
      simp only [Except.bind, right.runInstrs_postorder]
      cases right.evaluate with
      | error error => rfl
      | ok w =>
        simp only [List.singleton_append, runInstrs, Instr.step]
        cases op.apply v w <;> rfl
  | group inner => rw [Tree.postorder, inner.runInstrs_postorder, Tree.evaluate]
  | call f arguments =>
    rw [Tree.postorder, List.append_assoc, runInstrs_postorderAll, Tree.evaluate]
    cases harguments : evaluateAll arguments with
    | error error => rfl
    | ok found =>
      -- The call finds the values of all its arguments on top, and no others.
      rw [← length_of_evaluateAll harguments]
      simp only [Except.bind, List.singleton_append, runInstrs, step_call]
      cases (if f.arity.accepts found.length then f.apply found
        else .error (.wrongArgumentCount f.name found.length)) <;> rfl

/-- The instructions of trees put their values on the stack, the last of them on top. -/
theorem runInstrs_postorderAll (trees : List Tree) (rest : List Instr) (values : List Value) :
    runInstrs (postorderAll trees ++ rest) values =
      (evaluateAll trees).bind fun found => runInstrs rest (found.reverse ++ values) := by
  cases trees with
  | nil => rfl
  | cons tree trees =>
    rw [postorderAll, List.append_assoc, tree.runInstrs_postorder, evaluateAll]
    cases tree.evaluate with
    | error error => rfl
    | ok v =>
      simp only [Except.bind, runInstrs_postorderAll]
      cases evaluateAll trees <;> simp [Except.map]

end

/-! ## Heights -/

def Instr.taken : Instr → Nat
  | .push _ => 0
  | .negate => 1
  | .binary _ => 2
  | .call _ count => count

/-- The height of the stack behind instructions, unless one of them takes more than there is. -/
def heightAfter : List Instr → (height : Nat) → Option Nat
  | [], height => some height
  | instr :: instrs, height =>
    if instr.taken ≤ height then heightAfter instrs (height - instr.taken + 1) else none

mutual

/-- A tree adds one value to the stack. -/
theorem Tree.heightAfter_postorder (tree : Tree) (rest : List Instr) (height : Nat) :
    heightAfter (tree.postorder ++ rest) height = heightAfter rest (height + 1) := by
  cases tree with
  | number x => simp [Tree.postorder, heightAfter, Instr.taken]
  | constant x => simp [Tree.postorder, heightAfter, Instr.taken]
  | negate operand =>
    rw [Tree.postorder, List.append_assoc, operand.heightAfter_postorder]
    simp [heightAfter, Instr.taken]
  | plus operand => rw [Tree.postorder, operand.heightAfter_postorder]
  | binary op left right =>
    rw [Tree.postorder, List.append_assoc, List.append_assoc, left.heightAfter_postorder,
      right.heightAfter_postorder]
    simp [heightAfter, Instr.taken]
  | group inner => rw [Tree.postorder, inner.heightAfter_postorder]
  | call f arguments =>
    rw [Tree.postorder, List.append_assoc, heightAfter_postorderAll]
    simp [heightAfter, Instr.taken]

theorem heightAfter_postorderAll (trees : List Tree) (rest : List Instr) (height : Nat) :
    heightAfter (postorderAll trees ++ rest) height = heightAfter rest (height + trees.length) := by
  cases trees with
  | nil => rfl
  | cons tree trees =>
    rw [postorderAll, List.append_assoc, tree.heightAfter_postorder, heightAfter_postorderAll,
      List.length_cons]
    congr 1
    omega

end

theorem length_of_step {instr : Instr} {values next : List Value}
    (hstep : instr.step values = .ok next) : next.length = values.length - instr.taken + 1 := by
  unfold Instr.step at hstep
  split at hstep
  · cases hstep
    simp [Instr.taken]
  · cases hstep
    simp [Instr.taken]
  · rename_i op w v values
    cases hvalue : op.apply v w with
    | error error => simp [hvalue, Except.map] at hstep
    | ok value =>
      simp only [hvalue, Except.map, Except.ok.injEq] at hstep
      simp [← hstep, Instr.taken]
  · rename_i f count
    split at hstep
    · cases hstep
    · split at hstep
      · cases hstep
      · cases hvalue : f.apply (values.take count).reverse with
        | error error => simp [hvalue, Except.map] at hstep
        | ok value =>
          simp only [hvalue, Except.map, Except.ok.injEq] at hstep
          simp [← hstep, Instr.taken]
  · cases hstep
  · cases hstep

/-- The height of the stack is that of a run. -/
theorem length_of_runInstrs {instrs rest : List Instr} {values next : List Value} {height : Nat}
    (hheight : heightAfter (instrs ++ rest) values.length = some height)
    (hrun : runInstrs instrs values = .ok next) : heightAfter rest next.length = some height := by
  induction instrs generalizing values with
  | nil =>
    cases hrun
    exact hheight
  | cons instr instrs ih =>
    simp only [runInstrs] at hrun
    cases hstep : instr.step values with
    | error error => simp [hstep, Except.bind] at hrun
    | ok reached =>
      simp only [hstep, Except.bind] at hrun
      simp only [List.cons_append, heightAfter, Option.ite_none_right_eq_some] at hheight
      rw [← length_of_step hstep] at hheight
      exact ih hheight.2 hrun

/-! ## Operands -/

/-- There is a middle of one value or more. -/
theorem middle?_isSome {values : List Value} (h : values ≠ []) : (middle? values).isSome = true := by
  have hlength : 0 < values.length := List.length_pos_iff.2 h
  unfold middle?
  simp only [List.length_mergeSort]
  split
  · have hhalf : values.length / 2 - 1 < values.length := by omega
    have hhalf' : values.length / 2 < values.length := by omega
    simp [hhalf, hhalf']
  · have hhalf : values.length / 2 < values.length := by omega
    simp [hhalf]

theorem remainder?_ne_incomplete (v w : Value) : remainder? v w ≠ .error .incomplete := by
  unfold remainder?
  split <;> simp

theorem Operator.apply_ne_incomplete (op : Operator) (v w : Value) :
    op.apply v w ≠ .error .incomplete := by
  unfold apply
  split
  case h_4 => split <;> simp
  case h_5 => exact remainder?_ne_incomplete v w
  all_goals simp

/-- A function has a value or a reason of its own for as many arguments as it accepts. -/
theorem SheetFunction.apply_ne_incomplete {f : SheetFunction} {arguments : List Value}
    (h : f.arity.accepts arguments.length = true) : f.apply arguments ≠ .error .incomplete := by
  cases f
  case median =>
    have hne : arguments ≠ [] := by
      rintro rfl
      exact absurd h (by decide)
    rcases Option.isSome_iff_exists.1 (middle?_isSome hne) with ⟨v, hv⟩
    simp [apply, hv]
  case mod => exact remainder?_ne_incomplete _ _
  all_goals simp [apply]

theorem map_ne_error {ε α β : Type} {result : Except ε α} {error : ε}
    (h : result ≠ .error error) (f : α → β) : result.map f ≠ .error error := by
  cases result with
  | error found => simpa [Except.map] using h
  | ok value => simp [Except.map]

theorem step_ne_incomplete {instr : Instr} {values : List Value} (h : instr.taken ≤ values.length) :
    instr.step values ≠ .error .incomplete := by
  unfold Instr.step
  split
  · simp
  · simp
  · exact map_ne_error (Operator.apply_ne_incomplete _ _ _) _
  · rename_i f count
    simp only [Instr.taken] at h
    split
    · simp
    · rename_i haccepts
      split
      · omega
      · refine map_ne_error (SheetFunction.apply_ne_incomplete ?_) _
        simpa [Nat.min_eq_left h] using haccepts
  · simp [Instr.taken] at h
  · rename_i hshort
    -- Two values on the stack would have been taken by the operator.
    match values with
    | [] | [v] => simp [Instr.taken] at h
    | w :: v :: values => exact absurd rfl (hshort w v values)

theorem runInstrs_ne_incomplete {instrs : List Instr} {values : List Value} {height : Nat}
    (h : heightAfter instrs values.length = some height) :
    runInstrs instrs values ≠ .error .incomplete := by
  induction instrs generalizing values with
  | nil => simp [runInstrs]
  | cons instr instrs ih =>
    simp only [heightAfter, Option.ite_none_right_eq_some] at h
    rw [runInstrs]
    cases hstep : instr.step values with
    | error error =>
      intro heq
      cases heq
      exact step_ne_incomplete h.1 hstep
    | ok next =>
      rw [← length_of_step hstep] at h
      exact ih h.2

/-! ## Expressions -/

/-- What becomes of the instructions of an expression. Their result is that of its parse tree, value or
error, and never that an operand is missing: each instruction that is reached finds what it takes on the
stack, a function is applied to as many arguments as it accepts or not at all, and one value is left at
the end. -/
theorem runPostfix_eq_evaluate {tokens : List Token} {instrs : List Instr}
    (h : toPostfix tokens = .ok instrs) :
    ∃ tree, Derives .expr tokens tree [] ∧
      runPostfix instrs = tree.evaluate ∧
      runPostfix instrs ≠ .error .incomplete ∧
      (∀ done instr rest values, instrs = done ++ instr :: rest → runInstrs done [] = .ok values →
        instr.taken ≤ values.length ∧
          ∀ f count, instr = .call f count →
            ∃ arguments below, values = arguments.reverse ++ below ∧ arguments.length = count ∧
              instr.step values =
                (if f.arity.accepts arguments.length then f.apply arguments
                  else .error (.wrongArgumentCount f.name arguments.length)).map (· :: below)) ∧
      ∀ values, runInstrs instrs [] = .ok values → ∃ value, values = [value] := by
  rcases derives_of_toPostfix h with ⟨tree, htree⟩
  have hinstrs : instrs = tree.postorder := by
    rw [toPostfix_of_derives htree] at h
    exact (Except.ok.inj h).symm
  have hheight : heightAfter instrs 0 = some 1 := by
    simpa [hinstrs, heightAfter] using tree.heightAfter_postorder [] 0
  have hone : ∀ values, runInstrs instrs [] = .ok values → ∃ value, values = [value] := by
    intro values hrun
    have hend : heightAfter (instrs ++ []) ([] : List Value).length = some 1 := by
      simpa using hheight
    exact List.length_eq_one_iff.1 (Option.some.inj (length_of_runInstrs hend hrun))
  refine ⟨tree, htree, ?_, ?_, ?_, hone⟩
  · have hrun := tree.runInstrs_postorder [] []
    rw [List.append_nil, ← hinstrs] at hrun
    rw [runPostfix, hrun]
    cases tree.evaluate <;> rfl
  · have hrun : runInstrs instrs [] ≠ .error .incomplete := runInstrs_ne_incomplete hheight
    unfold runPostfix
    cases hresult : runInstrs instrs [] with
    | error error =>
      intro heq
      cases heq
      exact hrun hresult
    | ok values =>
      rcases hone values hresult with ⟨value, rfl⟩
      simp [Except.bind]
  · intro done instr rest values hsplit hrun
    have hstart : heightAfter (done ++ instr :: rest) ([] : List Value).length = some 1 := by
      simpa [hsplit] using hheight
    have hreached := length_of_runInstrs hstart hrun
    simp only [heightAfter, Option.ite_none_right_eq_some] at hreached
    refine ⟨hreached.1, ?_⟩
    rintro f count rfl
    have htaken : count ≤ values.length := hreached.1
    -- The arguments are the values on top, and the call takes just these.
    refine ⟨(values.take count).reverse, values.drop count, by simp, by simp [htaken], ?_⟩
    have hlength : (values.take count).reverse.length = count := by simp [htaken]
    have hcall := step_call f (values.take count).reverse (values.drop count)
    rw [hlength, List.reverse_reverse, List.take_append_drop] at hcall
    rw [hcall, hlength]

/-- The call of a function that takes two arguments with one: the count is found wrong before the division
by zero behind it. -/
theorem runPostfix_eq_evaluate_of_call :
    let tokens : List Token := [.number 2.0, .operator .multiply, .name "Mod", .opening, .number 7.0,
      .closing, .operator .add, .number 1.0, .operator .divide, .number 0.0]
    let instrs : List Instr := [.push 2.0, .push 7.0, .call .mod 1, .binary .multiply, .push 1.0,
      .push 0.0, .binary .divide, .binary .add]
    toPostfix tokens = .ok instrs ∧
      ∃ tree, Derives .expr tokens tree [] ∧ runPostfix instrs = tree.evaluate ∧
        tree.evaluate = .error (.wrongArgumentCount "mod" 1) := by
  intro tokens instrs
  have htokens : toPostfix tokens = .ok instrs := by rfl
  have hresult : runPostfix instrs = .error (.wrongArgumentCount "mod" 1) := by rfl
  rcases runPostfix_eq_evaluate htokens with ⟨tree, htree, hvalue, _⟩
  exact ⟨htokens, tree, htree, hvalue, hvalue.symm.trans hresult⟩

end SheetMarkup
