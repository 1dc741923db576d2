/-!
# Exact values of floats

A finite float is a whole number times a power of two. Everything that is printed is decided on
that exact value in whole numbers.

* `Binary`: a mantissa, a binary exponent and a sign
* `FloatValue.of`: the decoding of a float from its bits
-/

namespace SheetMarkup.Decimal

/-- The number `mantissa · 2 ^ exponent`, with a sign that zero keeps too. -/
structure Binary where
  negative : Bool
  mantissa : Nat
  exponent : Int
  deriving DecidableEq, Repr

inductive FloatValue where
  | undefined
  | infinite (negative : Bool)
  | finite (value : Binary)
  deriving DecidableEq, Repr

/-- Mantissas of normal floats start here, and there the spacing below is half of that above. -/
def hiddenBit : Nat := Nat.pow 2 52

def leastExponent : Int := -1074

def FloatValue.of (x : Float) : FloatValue :=
  let bits := x.toBits.toNat
  let negative := bits / Nat.pow 2 63 == 1
  let field := bits / hiddenBit % Nat.pow 2 11
  let fraction := bits % hiddenBit
  if field = 2047 then
    if fraction = 0 then .infinite negative else .undefined
  else if field = 0 then .finite ⟨negative, fraction, leastExponent⟩
  else .finite ⟨negative, hiddenBit + fraction, Int.ofNat field - 1075⟩

namespace Binary

def numerator (b : Binary) : Nat :=
  b.mantissa * Nat.pow 2 b.exponent.toNat

def denominator (b : Binary) : Nat :=
  Nat.pow 2 (-b.exponent).toNat

/-- The float with a given mantissa below `2 ^ 53` and an exponent, where it exists. -/
def toFloat (b : Binary) : Float :=
  let magnitude := (Float.ofNat b.mantissa).scaleB b.exponent
  if b.negative then -magnitude else magnitude

end Binary

/-- The remainder of truncated division, exact and with the sign of the dividend. -/
def remainder (x y : Float) : Float :=
  match FloatValue.of x, FloatValue.of y with
  | .finite a, .finite b =>
    if b.mantissa = 0 then 0.0 / 0.0
    else
      let exponent := min a.exponent b.exponent
      let dividend := a.mantissa * Nat.pow 2 (a.exponent - exponent).toNat
      let divisor := b.mantissa * Nat.pow 2 (b.exponent - exponent).toNat
      Binary.toFloat ⟨a.negative, dividend % divisor, exponent⟩
  | .finite _, .infinite _ => x
  | _, _ => 0.0 / 0.0

end SheetMarkup.Decimal
