/-!
# Expression errors — why an expression has no value
-/

namespace SheetMarkup

inductive ExpressionError where
  | empty
  | divisionByZero
  | undefinedVariable (name : String)
  | unknownFunction (name : String)
  | wrongArgumentCount (function : String) (given : Nat)
  | mismatchedParentheses
  | unexpectedToken (token : String)
  /-- An operand is missing where the expression ends. -/
  | incomplete
  | notFinite
  /-- The reason of an evaluator other than the arithmetic one. -/
  | rejected (reason : String)
  deriving DecidableEq, Repr

namespace ExpressionError

def message : ExpressionError → String
  | .empty => "empty expression"
  | .divisionByZero => "division by zero"
  | .undefinedVariable name => "undefined variable '" ++ name ++ "'"
  | .unknownFunction name => "unknown function '" ++ name ++ "'"
  | .wrongArgumentCount function given =>
    "wrong number of arguments (" ++ toString given ++ " given) for function '" ++ function ++ "'"
  | .mismatchedParentheses => "mismatched parentheses"
  | .unexpectedToken token => "unexpected '" ++ token ++ "'"
  | .incomplete => "syntax error"
  | .notFinite => "result is not a finite number"
  | .rejected reason => reason

end ExpressionError

/-- Gives the text of the value of an expression without references. -/
abbrev Evaluator := String → Except ExpressionError String

end SheetMarkup
