import SheetMarkup.Proofs.Expression.Result
import SheetMarkup.Proofs.Text.Blanks

/-!
# Reasons — what arithmetic says when it gives no value

An evaluator may give any text as the reason of a failure. Arithmetic gives reasons of its own only, and
each of them starts with a small letter. The reasons why a reference cannot be resolved start with a
capital one, so a failed computation is never taken for a cycle.

* `Foreseen`: results that do not fail for the reason of another evaluator
* `arithmetic_foreseen`: arithmetic gives such results
* `ExpressionError.startsSmall_message`: how the reasons of arithmetic start
-/

namespace SheetMarkup

/-- If there is no result, the reason is one that arithmetic has. -/
def Foreseen {α : Type} (result : Except ExpressionError α) : Prop :=
  ∀ reason, result ≠ .error (.rejected reason)

section Foreseen

variable {α β : Type}

theorem Foreseen.ok (value : α) : Foreseen (.ok value) := by
  intro reason h
  cases h

theorem Foreseen.bind {result : Except ExpressionError α} {next : α → Except ExpressionError β}
    (h : Foreseen result) (hnext : ∀ value, Foreseen (next value)) :
    Foreseen (result.bind next) := by
  cases result with
  | error error =>
    intro reason heq
    cases heq
    exact h reason rfl
  | ok value => exact hnext value

theorem Foreseen.map {result : Except ExpressionError α} (h : Foreseen result) (f : α → β) :
    Foreseen (result.map f) := by
  cases result with
  | error error =>
    intro reason heq
    cases heq
    exact h reason rfl
  | ok value => exact Foreseen.ok (f value)

end Foreseen

/-! ## Tokens and conversion -/

theorem tokensFrom_foreseen (covered : Nat) (cs : List Char) : Foreseen (tokensFrom covered cs) := by
  induction cs generalizing covered with
  | nil => cases covered <;> exact Foreseen.ok []
  | cons c cs ih =>
    cases covered with
    | succ covered => exact ih covered
    | zero =>
      unfold tokensFrom
      split
      · exact ih 0
      · dsimp only
        split
        · split
          · exact (ih _).map _
          · simp [Foreseen]
        · split
          · exact (ih _).map _
          · split
            · exact (ih _).map _
            · simp [Foreseen]

namespace Conversion

variable (s : Conversion)

theorem number_foreseen (value : Float) : Foreseen (s.number value) := by
  unfold number
  split <;> simp [Foreseen]

theorem name_foreseen (text : String) : Foreseen (s.name text) := by
  unfold name
  split
  · split <;> simp [Foreseen]
  · simp [Foreseen]

theorem openCall_foreseen (text : String) (closes : Bool) : Foreseen (s.openCall text closes) := by
  unfold openCall
  split
  · split <;> simp [Foreseen]
  · simp [Foreseen]

theorem operator_foreseen (op : Operator) : Foreseen (s.operator op) := by
  unfold operator
  split
  · split <;> simp [Foreseen]
  · simp [Foreseen]

theorem openGroup_foreseen : Foreseen s.openGroup := by
  unfold openGroup
  split <;> simp [Foreseen]

theorem comma_foreseen : Foreseen s.comma := by
  unfold comma
  split
  · simp [Foreseen]
  · split <;> simp [Foreseen]

theorem close_foreseen : Foreseen s.close := by
  unfold close
  split
  · simp [Foreseen]
  · split
    · split <;> simp [Foreseen]
    · simp [Foreseen]
    · simp [Foreseen]

theorem finish_foreseen : Foreseen s.finish := by
  unfold finish
  split
  · simp [Foreseen]
  · split <;> simp [Foreseen]

theorem run_foreseen (tokens : List Token) : Foreseen (s.run tokens) := by
  induction s, tokens using Conversion.run.induct with
  | case1 s => exact Foreseen.ok s
  | case2 s value tokens ih => exact (s.number_foreseen value).bind ih
  | case3 s text tokens ih => exact (s.openCall_foreseen text _).bind ih
  | case4 s text tokens hne ih =>
    rw [run]
    · exact (s.name_foreseen text).bind ih
    · exact hne
  | case5 s op tokens ih => exact (s.operator_foreseen op).bind ih
  | case6 s tokens ih => exact s.openGroup_foreseen.bind ih
  | case7 s tokens ih => exact s.close_foreseen.bind ih
  | case8 s tokens ih => exact s.comma_foreseen.bind ih

end Conversion

theorem toPostfix_foreseen (tokens : List Token) : Foreseen (toPostfix tokens) := by
  unfold toPostfix
  split
  · simp [Foreseen]
  · exact (Conversion.start.run_foreseen tokens).bind Conversion.finish_foreseen

/-! ## The value stack -/

theorem remainder?_foreseen (v w : Value) : Foreseen (remainder? v w) := by
  unfold remainder?
  split <;> simp [Foreseen]

theorem Operator.apply_foreseen (op : Operator) (v w : Value) : Foreseen (op.apply v w) := by
  unfold apply
  split
  case h_4 => split <;> simp [Foreseen]
  case h_5 => exact remainder?_foreseen v w
  all_goals exact Foreseen.ok _

theorem SheetFunction.apply_foreseen (f : SheetFunction) (arguments : List Value) :
    Foreseen (f.apply arguments) := by
  unfold apply
  cases f
  case median => cases middle? arguments <;> simp [Foreseen]
  case mod => exact remainder?_foreseen _ _
  all_goals exact Foreseen.ok _

theorem Instr.step_foreseen (instr : Instr) (values : List Value) : Foreseen (instr.step values) := by
  unfold step
  split
  · exact Foreseen.ok _
  · exact Foreseen.ok _
  · exact (Operator.apply_foreseen _ _ _).map _
  · split
    · simp [Foreseen]
    · split
      · simp [Foreseen]
      · exact (SheetFunction.apply_foreseen _ _).map _
  · simp [Foreseen]
  · simp [Foreseen]

theorem runInstrs_foreseen (instrs : List Instr) (values : List Value) :
    Foreseen (runInstrs instrs values) := by
  induction instrs generalizing values with
  | nil => exact Foreseen.ok values
  | cons instr instrs ih => exact (instr.step_foreseen values).bind ih

theorem runPostfix_foreseen (instrs : List Instr) : Foreseen (runPostfix instrs) := by
  refine (runInstrs_foreseen instrs []).bind fun values => ?_
  split <;> simp [Foreseen]

theorem arithmetic_foreseen (expression : String) : Foreseen (arithmetic expression) := by
  refine Foreseen.map ?_ _
  refine (tokensFrom_foreseen 0 expression.toList).bind fun tokens => ?_
  refine (toPostfix_foreseen tokens).bind fun instrs => ?_
  refine (runPostfix_foreseen instrs).bind fun value => ?_
  split <;> simp [Foreseen]

/-! ## Texts -/

def StartsSmall (text : String) : Prop :=
  text.toList.head?.any Char.isLower = true

instance (text : String) : Decidable (StartsSmall text) :=
  inferInstanceAs (Decidable (text.toList.head?.any Char.isLower = true))

theorem StartsSmall.append {text : String} (h : StartsSmall text) (more : String) :
    StartsSmall (text ++ more) := by
  unfold StartsSmall at h ⊢
  rw [String.toList_append]
  cases hlist : text.toList with
  | nil => simp [hlist] at h
  | cons c cs => simpa [hlist] using h

/-- A reason of arithmetic starts with a small letter. -/
theorem ExpressionError.startsSmall_message {error : ExpressionError}
    (h : ∀ reason, error ≠ .rejected reason) : StartsSmall error.message := by
  cases error with
  | empty => decide
  | divisionByZero => decide
  | undefinedVariable name =>
    have hstart : StartsSmall "undefined variable '" := by decide
    exact (hstart.append name).append "'"
  | unknownFunction name =>
    have hstart : StartsSmall "unknown function '" := by decide
    exact (hstart.append name).append "'"
  | wrongArgumentCount function given =>
    have hstart : StartsSmall "wrong number of arguments (" := by decide
    exact (((hstart.append (toString given)).append " given) for function '").append function).append "'"
  | mismatchedParentheses => decide
  | unexpectedToken token =>
    have hstart : StartsSmall "unexpected '" := by decide
    exact (hstart.append token).append "'"
  | incomplete => decide
  | notFinite => decide
  | rejected reason => exact absurd rfl (h reason)

end SheetMarkup
