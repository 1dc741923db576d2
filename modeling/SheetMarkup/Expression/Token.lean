import SheetMarkup.Decimal.Written
import SheetMarkup.Expression.Error
import SheetMarkup.Text.Blank
import SheetMarkup.Text.Letters

/-!
# Tokens of an expression

An expression is cut into numbers, names, operators and punctuation. Blanks separate tokens and are
otherwise passed over.

* `Token`: the tokens
* `tokenize`: the tokens of a text, or the first character or literal that is none
-/

namespace SheetMarkup

inductive Operator where
  | add | subtract | multiply | divide | remainder | power
  deriving DecidableEq, Repr

namespace Operator

def symbol : Operator → Char
  | .add => '+'
  | .subtract => '-'
  | .multiply => '*'
  | .divide => '/'
  | .remainder => '%'
  | .power => '^'

def ofChar? : Char → Option Operator
  | '+' => some .add
  | '-' => some .subtract
  | '*' => some .multiply
  | '/' => some .divide
  | '%' => some .remainder
  | '^' => some .power
  | _ => none

end Operator

inductive Token where
  | number (value : Float)
  | name (text : String)
  | operator (op : Operator)
  | opening
  | closing
  | comma
  deriving Repr

def isNameChar (c : Char) : Bool :=
  Text.isLetter c || Text.isNumeral c || c == '_'

def isNameStart (c : Char) : Bool :=
  Text.isLetter c || c == '_'

def punctuation? (c : Char) : Option Token :=
  match c with
  | '(' => some .opening
  | ')' => some .closing
  | ',' => some .comma
  | _ => (Operator.ofChar? c).map .operator

/-- Tokens of a text whose first `covered` characters belong to a token already taken. -/
def tokensFrom : (covered : Nat) → List Char → Except ExpressionError (List Token)
  | _, [] => .ok []
  | covered + 1, _ :: cs => tokensFrom covered cs
  | 0, c :: cs =>
    if Text.isBlank c then tokensFrom 0 cs
    else if Decimal.isLiteralChar c then
      let more := cs.takeWhile Decimal.isLiteralChar
      match Decimal.readLiteral (c :: more) with
      | some x => (tokensFrom more.length cs).map (.number x :: ·)
      | none => .error (.unexpectedToken (String.ofList (c :: more)))
    else if isNameStart c then
      let more := cs.takeWhile isNameChar
      (tokensFrom more.length cs).map (.name (String.ofList (c :: more)) :: ·)
    else
      match punctuation? c with
      | some token => (tokensFrom 0 cs).map (token :: ·)
      | none => .error (.unexpectedToken (String.singleton c))

def tokenize (expression : String) : Except ExpressionError (List Token) :=
  tokensFrom 0 expression.toList

end SheetMarkup
