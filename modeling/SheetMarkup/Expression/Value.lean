import SheetMarkup.Decimal.Binary

/-!
# Values — the numbers of a computation

A number may turn out undefined, such as the root of a negative number. An undefined number still has
a sign: an operation passes on that of its first undefined operand, and where no operand is undefined
the sign belongs to the operation. The sign shows in the order of values, where what is undefined
stands at one end or the other.

* `Value`: a number with the sign it has while undefined
* `Value.map`, `Value.map₂`: operations on numbers as operations on values
* `Value.rank`: the place of a value in the order of all values
-/

namespace SheetMarkup

structure Value where
  number : Float
  /-- Whether an undefined number is negative. It says nothing of any other number. -/
  negative : Bool := false
  deriving Repr, Inhabited

namespace Value

def ofFloat (x : Float) : Value := ⟨x, false⟩

def isUndefined (v : Value) : Bool :=
  v.number.isNaN

/-- The value of an operation. It has the given sign if it is undefined and no operand is. -/
def ofResult (sign : Bool) (operands : List Value) (x : Float) : Value where
  number := x
  negative := x.isNaN && (operands.find? isUndefined).elim sign negative

/-- An operation on one value, negative where it is undefined. -/
def map (f : Float → Float) (v : Value) : Value :=
  ofResult true [v] (f v.number)

/-- An operation on one value, positive where it is undefined. -/
def mapPositive (f : Float → Float) (v : Value) : Value :=
  ofResult false [v] (f v.number)

/-- An operation on two values, negative where it is undefined. -/
def map₂ (f : Float → Float → Float) (v w : Value) : Value :=
  ofResult true [v, w] (f v.number w.number)

def add : Value → Value → Value := map₂ (· + ·)

def subtract : Value → Value → Value := map₂ (· - ·)

def multiply : Value → Value → Value := map₂ (· * ·)

def divide : Value → Value → Value := map₂ (· / ·)

def magnitude (v : Value) : Value :=
  ofFloat v.number.abs

def isOdd (x : Float) : Bool :=
  x.isFinite && (Decimal.remainder x 2.0).abs == 1.0

/-- The power of a value. An odd power of an undefined value is positive. -/
def power (v w : Value) : Value :=
  if v.isUndefined && isOdd w.number then v.magnitude
  else v.map₂ Float.pow w

def negate (v : Value) : Value where
  number := -v.number
  negative := v.isUndefined && !v.negative

/-- The place of a value in the order of all values. What is undefined lies beyond the infinities, on
the side of its sign, and the negative zero comes before the positive one. -/
def rank (v : Value) : Int :=
  let bits := v.number.toBits.toNat
  if v.isUndefined then if v.negative then -Int.pow 2 64 else Int.pow 2 64
  else if bits < Nat.pow 2 63 then Int.ofNat bits
  else -Int.ofNat (bits - Nat.pow 2 63) - 1

end Value
end SheetMarkup
