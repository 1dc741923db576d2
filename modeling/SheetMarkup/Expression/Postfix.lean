import SheetMarkup.Expression.Function
import SheetMarkup.Expression.Token

/-!
# Postfix order

An expression is brought into the order in which it is computed: operands first, then what is done
with them. Operators wait on a stack until an operator that binds no tighter, a comma, a closing
parenthesis or the end releases them.

* `Instr`: what a stack of values is asked to do
* `Conversion`: the state between two tokens
* `toPostfix`: the instructions of a whole expression
-/

namespace SheetMarkup

inductive Instr where
  | push (value : Float)
  | negate
  | binary (op : Operator)
  | call (f : SheetFunction) (count : Nat)
  deriving Repr

/-- What waits on the operator stack. An open call is the function below its parenthesis. -/
inductive Pending where
  | operator (op : Operator)
  | negation
  | parenthesis
  | call (f : SheetFunction)
  deriving DecidableEq, Repr

def Operator.level : Operator → Nat
  | .add | .subtract => 1
  | .multiply | .divide | .remainder => 2
  | .power => 4

/-- Negation binds tighter than a product and less tight than a power. -/
def negationLevel : Nat := 3

/-- The instruction of a waiting operator; parentheses and calls are closed, not released. -/
def Pending.instr? : Pending → Option Instr
  | .operator op => some (.binary op)
  | .negation => some .negate
  | .parenthesis | .call _ => none

/-- Whether a waiting operator is computed before an operator that comes after it. Only powers
associate to the right. -/
def Pending.precedes (next : Operator) : Pending → Bool
  | .operator op => next.level < op.level || (op.level == next.level && next != .power)
  | .negation => next.level < negationLevel
  | .parenthesis | .call _ => false

/-- The state of a conversion: instructions, latest first; waiting entries, top first; the number of
arguments so far of each open call, innermost first; and whether an operand has to come next. -/
structure Conversion where
  output : List Instr
  waiting : List Pending
  counts : List Nat
  operandDue : Bool
  deriving Repr

namespace Conversion

def start : Conversion := ⟨[], [], [], true⟩

/-- Entries released from the top of the stack while `ready` holds of them. -/
def releaseWhile (ready : Pending → Bool) : List Pending → List Instr → List Pending × List Instr
  | [], output => ([], output)
  | top :: below, output =>
    match top.instr? with
    | some instr =>
      if ready top then releaseWhile ready below (instr :: output) else (top :: below, output)
    | none => (top :: below, output)

def operand (s : Conversion) (value : Float) : Conversion :=
  { s with output := .push value :: s.output, operandDue := false }

def number (s : Conversion) (value : Float) : Except ExpressionError Conversion :=
  if s.operandDue then .ok (s.operand value)
  else .error (.unexpectedToken (Decimal.resultText value))

def name (s : Conversion) (text : String) : Except ExpressionError Conversion :=
  if s.operandDue then
    match constant? text with
    | some value => .ok (s.operand value)
    | none => .error (.undefinedVariable text)
  else .error (.unexpectedToken text)

/-- A name with the parenthesis after it; a call without arguments closes at once. -/
def openCall (s : Conversion) (text : String) (closes : Bool) : Except ExpressionError Conversion :=
  if s.operandDue then
    match SheetFunction.find? text with
    | some f =>
      .ok { s with
        waiting := .parenthesis :: .call f :: s.waiting
        counts := (if closes then 0 else 1) :: s.counts }
    | none => .error (.unknownFunction (Text.lowercase text))
  else .error (.unexpectedToken text)

/-- An operator. Where an operand is due it is a sign: a plus is dropped and a minus negates. -/
def operator (s : Conversion) (op : Operator) : Except ExpressionError Conversion :=
  if s.operandDue then
    match op with
    | .subtract => .ok { s with waiting := .negation :: s.waiting }
    | .add => .ok s
    | _ => .error (.unexpectedToken (String.singleton op.symbol))
  else
    let (waiting, output) := releaseWhile (Pending.precedes op) s.waiting s.output
    .ok { s with output, waiting := .operator op :: waiting, operandDue := true }

def openGroup (s : Conversion) : Except ExpressionError Conversion :=
  if s.operandDue then .ok { s with waiting := .parenthesis :: s.waiting }
  else .error (.unexpectedToken "(")

/-- A comma, which ends an argument of the innermost open call. -/
def comma (s : Conversion) : Except ExpressionError Conversion :=
  if s.operandDue || !s.waiting.contains .parenthesis then .error (.unexpectedToken ",")
  else
    match releaseWhile (fun _ => true) s.waiting s.output, s.counts with
    | (.parenthesis :: .call f :: below, output), count :: counts =>
      .ok { output, waiting := .parenthesis :: .call f :: below
            counts := (count + 1) :: counts, operandDue := true }
    | (.parenthesis :: _, _), _ => .error (.unexpectedToken ",")
    | _, _ => .error .mismatchedParentheses

def closesEmptyCall (s : Conversion) : Bool :=
  s.waiting.head? == some .parenthesis && s.counts.head? == some 0

def close (s : Conversion) : Except ExpressionError Conversion :=
  if s.operandDue && !s.closesEmptyCall then .error (.unexpectedToken ")")
  else
    match releaseWhile (fun _ => true) s.waiting s.output with
    | (.parenthesis :: .call f :: below, output) =>
      match s.counts with
      | count :: counts =>
        .ok { output := .call f count :: output, waiting := below, counts, operandDue := false }
      | [] => .error .mismatchedParentheses
    | (.parenthesis :: below, output) => .ok { s with output, waiting := below, operandDue := false }
    | _ => .error .mismatchedParentheses

def finish (s : Conversion) : Except ExpressionError (List Instr) :=
  if s.operandDue then .error .incomplete
  else
    match releaseWhile (fun _ => true) s.waiting s.output with
    | ([], output) => .ok output.reverse
    | _ => .error .mismatchedParentheses

def startsWithClosing : List Token → Bool
  | .closing :: _ => true
  | _ => false

def run (s : Conversion) : List Token → Except ExpressionError Conversion
  | [] => .ok s
  | .number value :: tokens => (s.number value).bind (run · tokens)
  | .name text :: .opening :: tokens =>
    (s.openCall text (startsWithClosing tokens)).bind (run · tokens)
  | .name text :: tokens => (s.name text).bind (run · tokens)
  | .operator op :: tokens => (s.operator op).bind (run · tokens)
  | .opening :: tokens => s.openGroup.bind (run · tokens)
  | .closing :: tokens => s.close.bind (run · tokens)
  | .comma :: tokens => s.comma.bind (run · tokens)

end Conversion

def toPostfix (tokens : List Token) : Except ExpressionError (List Instr) :=
  if tokens.isEmpty then .error .empty
  else (Conversion.start.run tokens).bind Conversion.finish

end SheetMarkup
