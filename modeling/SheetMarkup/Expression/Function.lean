import SheetMarkup.Decimal.Binary
import SheetMarkup.Expression.Error
import SheetMarkup.Expression.Value
import SheetMarkup.Text.Lowercase

/-!
# Functions and constants of expressions

Names are looked up in lower case; some functions have a second name.

* `SheetFunction`: the functions, with the argument counts they accept
* `SheetFunction.find?`, `constant?`: look-up by name
* `SheetFunction.apply`: the value of a call
-/

namespace SheetMarkup

inductive SheetFunction where
  | sum | product | average | median | range | min | max | counta
  | mod | power | round | abs | sqrt | exp | ln | log | floor | ceil
  | sin | cos | tan | asin | acos | atan | atan2 | pi
  deriving DecidableEq, Repr

/-- The argument counts a function accepts: from `least` up to `most`, or any number from `least`
on. -/
structure Arity where
  least : Nat
  most : Option Nat
  deriving DecidableEq, Repr

namespace Arity

def exactly (n : Nat) : Arity := ⟨n, some n⟩

def accepts (arity : Arity) (count : Nat) : Bool :=
  arity.least ≤ count && arity.most.all (count ≤ ·)

end Arity

namespace SheetFunction

def arity : SheetFunction → Arity
  | .sum | .product | .average | .median | .range | .min | .max | .counta => ⟨1, none⟩
  | .mod | .power | .atan2 => .exactly 2
  | .round | .log => ⟨1, some 2⟩
  | .pi => .exactly 0
  | .abs | .sqrt | .exp | .ln | .floor | .ceil | .sin | .cos | .tan | .asin | .acos | .atan =>
    .exactly 1

def name : SheetFunction → String
  | .sum => "sum"
  | .product => "product"
  | .average => "average"
  | .median => "median"
  | .range => "range"
  | .min => "min"
  | .max => "max"
  | .counta => "counta"
  | .mod => "mod"
  | .power => "power"
  | .round => "round"
  | .abs => "abs"
  | .sqrt => "sqrt"
  | .exp => "exp"
  | .ln => "ln"
  | .log => "log"
  | .floor => "floor"
  | .ceil => "ceil"
  | .sin => "sin"
  | .cos => "cos"
  | .tan => "tan"
  | .asin => "asin"
  | .acos => "acos"
  | .atan => "atan"
  | .atan2 => "atan2"
  | .pi => "pi"

def table : List (String × SheetFunction) :=
  [("abs", .abs), ("acos", .acos), ("arccos", .acos), ("arcsin", .asin), ("arctan", .atan),
   ("arctan2", .atan2), ("asin", .asin), ("atan", .atan), ("atan2", .atan2),
   ("average", .average), ("ceil", .ceil), ("cos", .cos), ("counta", .counta), ("exp", .exp),
   ("floor", .floor), ("ln", .ln), ("log", .log), ("max", .max), ("mean", .average),
   ("median", .median), ("min", .min), ("mod", .mod), ("pi", .pi), ("pow", .power),
   ("power", .power), ("product", .product), ("range", .range), ("round", .round),
   ("sin", .sin), ("sqrt", .sqrt), ("sum", .sum), ("tan", .tan)]

def find? (name : String) : Option SheetFunction :=
  table.lookup (Text.lowercase name)

end SheetFunction

def constantTable : List (String × Float) :=
  [("pi", 3.141592653589793), ("e", 2.718281828459045)]

def constant? (name : String) : Option Float :=
  constantTable.lookup (Text.lowercase name)

/-! ## Aggregates -/

/-- The sum from the left; the empty sum is the negative zero, which no addend is changed by. -/
def total (values : List Value) : Value :=
  values.foldl Value.add (.ofFloat (-0.0))

/-- The middle value, or the mean of the two middle values; there is none of no values. -/
def middle? (values : List Value) : Option Value :=
  let sorted := values.mergeSort fun v w => v.rank ≤ w.rank
  let half := sorted.length / 2
  if sorted.length % 2 = 0 then
    match sorted[half - 1]?, sorted[half]? with
    | some v, some w => some ((v.add w).divide (.ofFloat 2.0))
    | _, _ => none
  else sorted[half]?

/-- The least value; undefined values are passed over. Of values that compare equal, such as the
two zeros, the last one counts. -/
def least (values : List Value) : Value :=
  .ofFloat (values.foldl
    (fun m v => if m < v.number || v.number.isNaN then m else v.number) (1.0 / 0.0))

/-- The greatest value; undefined values are passed over. Of values that compare equal, such as
the two zeros, the last one counts. -/
def greatest (values : List Value) : Value :=
  .ofFloat (values.foldl
    (fun m v => if v.number < m || v.number.isNaN then m else v.number) (-1.0 / 0.0))

def truncate (x : Float) : Float :=
  if x < 0.0 then x.ceil else x.floor

/-- A value rounded to a whole number of decimal places, which may be negative. -/
def roundTo (v places : Value) : Value :=
  let factor := Value.power (.ofFloat 10.0) (places.map truncate)
  ((v.multiply factor).map Float.round).divide factor

def remainder? (v w : Value) : Except ExpressionError Value :=
  if w.number == 0.0 then .error .divisionByZero else .ok (v.map₂ Decimal.remainder w)

def logarithm (v : Value) : Option Value → Value
  | none => v.mapPositive Float.log10
  | some base => (v.map Float.log).divide (base.map Float.log)

/-- The angle of a point. Of two undefined coordinates the second one counts. -/
def angle (y x : Value) : Value :=
  x.map₂ (fun x y => y.atan2 x) y

/-- The value of a call. The middle of no values is asked for only by a call that its arity does
not accept. -/
def SheetFunction.apply (f : SheetFunction) (arguments : List Value) :
    Except ExpressionError Value :=
  let first := arguments.headD (.ofFloat 0.0)
  let second? := arguments[1]?
  let second (default : Float) := second?.getD (.ofFloat default)
  let count := Value.ofFloat (Float.ofNat arguments.length)
  match f with
  | .sum => .ok (total arguments)
  | .product => .ok (arguments.foldl Value.multiply (.ofFloat 1.0))
  | .average => .ok ((total arguments).divide count)
  | .median => (middle? arguments).elim (.error .incomplete) .ok
  | .range => .ok ((greatest arguments).subtract (least arguments))
  | .min => .ok (least arguments)
  | .max => .ok (greatest arguments)
  | .counta => .ok count
  | .mod => remainder? first (second 0.0)
  | .power => .ok (first.power (second 1.0))
  | .round => .ok (roundTo first (second 0.0))
  | .abs => .ok first.magnitude
  | .sqrt => .ok (first.map Float.sqrt)
  | .exp => .ok (first.map Float.exp)
  | .ln => .ok (first.map Float.log)
  | .log => .ok (logarithm first second?)
  | .floor => .ok (first.map Float.floor)
  | .ceil => .ok (first.map Float.ceil)
  | .sin => .ok (first.map Float.sin)
  | .cos => .ok (first.map Float.cos)
  | .tan => .ok (first.map Float.tan)
  | .asin => .ok (first.mapPositive Float.asin)
  | .acos => .ok (first.mapPositive Float.acos)
  | .atan => .ok (first.map Float.atan)
  | .atan2 => .ok (angle first (second 1.0))
  | .pi => .ok (.ofFloat 3.141592653589793)

end SheetMarkup
