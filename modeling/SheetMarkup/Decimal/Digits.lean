/-!
# Decimal digits

A decimal is a whole number of units of a power of ten. Fractions are brought onto a decimal grid
here, either at a given number of significant digits or to compare with a point of the grid.

* `Decimal`: digits, scale and sign
* `magnitude`: the power of ten of the leading digit of a fraction
* `onGrid`: a fraction counted in units of a power of ten
* `Decimal.toFloat`: the float nearest to a decimal
-/

namespace SheetMarkup

/-- The number `digits · 10 ^ scale`, with a sign that zero keeps too. -/
structure Decimal where
  negative : Bool
  digits : Nat
  scale : Int
  deriving DecidableEq, Repr

namespace Decimal

def digitCount (n : Nat) : Nat :=
  (Nat.toDigits 10 n).length

/-- The fraction `numerator / denominator` divided by `10 ^ scale`. -/
def onGrid (numerator denominator : Nat) (scale : Int) : Nat × Nat :=
  (numerator * Nat.pow 10 (-scale).toNat, denominator * Nat.pow 10 scale.toNat)

/-- The exponent of ten of the leading digit of a positive fraction. -/
def magnitude (numerator denominator : Nat) : Int :=
  let guess := Int.ofNat (digitCount numerator) - Int.ofNat (digitCount denominator)
  let (n, d) := onGrid numerator denominator guess
  if d ≤ n then guess else guess - 1

/-- The whole number nearest to a fraction, the even one of two that are equally near. -/
def roundToEven (numerator denominator : Nat) : Nat :=
  let quotient := numerator / denominator
  let twice := 2 * (numerator % denominator)
  if twice < denominator then quotient
  else if denominator < twice then quotient + 1
  else quotient + quotient % 2

def rounded (places : Nat) (negative : Bool) (numerator denominator : Nat) : Decimal :=
  let scale := magnitude numerator denominator + 1 - Int.ofNat places
  let (n, d) := onGrid numerator denominator scale
  ⟨negative, roundToEven n d, scale⟩

/-- The float nearest to a decimal; what lies beyond the largest float is infinite. -/
def toFloat (d : Decimal) : Float :=
  let leading := Int.ofNat (digitCount d.digits) + d.scale
  let unsigned : Float :=
    if d.digits = 0 || leading < -330 then 0.0
    else if 330 < leading then 1.0 / 0.0
    else Float.ofScientific d.digits (d.scale < 0) d.scale.natAbs
  if d.negative then -unsigned else unsigned

end Decimal
end SheetMarkup
