import SheetMarkup.Expression.Postfix

/-!
# The value stack

Instructions in postfix order are carried out on a stack of values, which ends with the one value of
the expression.

* `Instr.step`, `runInstrs`: the machine
* `evaluateNumber`: the finite number an expression stands for
* `arithmetic`: the evaluator that gives the text of that number
-/

namespace SheetMarkup

def Operator.apply (op : Operator) (v w : Value) : Except ExpressionError Value :=
  match op with
  | .add => .ok (v.add w)
  | .subtract => .ok (v.subtract w)
  | .multiply => .ok (v.multiply w)
  | .divide => if w.number == 0.0 then .error .divisionByZero else .ok (v.divide w)
  | .remainder => remainder? v w
  | .power => .ok (v.power w)

/-- One instruction on a stack of values, top first. A call checks its argument count before it
takes its arguments. -/
def Instr.step : Instr → List Value → Except ExpressionError (List Value)
  | .push x, values => .ok (.ofFloat x :: values)
  | .negate, v :: values => .ok (v.negate :: values)
  | .binary op, w :: v :: values => (op.apply v w).map (· :: values)
  | .call f count, values =>
    if !f.arity.accepts count then .error (.wrongArgumentCount f.name count)
    else if values.length < count then .error .incomplete
    else (f.apply (values.take count).reverse).map (· :: values.drop count)
  | .negate, [] => .error .incomplete
  | .binary _, _ => .error .incomplete

def runInstrs : List Instr → List Value → Except ExpressionError (List Value)
  | [], values => .ok values
  | instr :: instrs, values => (instr.step values).bind (runInstrs instrs)

def runPostfix (instrs : List Instr) : Except ExpressionError Value :=
  (runInstrs instrs []).bind fun
    | [value] => .ok value
    | _ => .error .incomplete

def evaluateNumber (expression : String) : Except ExpressionError Float := do
  let value ← runPostfix (← toPostfix (← tokenize expression))
  if value.number.isFinite then .ok value.number else .error .notFinite

def arithmetic : Evaluator := fun expression =>
  (evaluateNumber expression).map Decimal.resultText

end SheetMarkup
