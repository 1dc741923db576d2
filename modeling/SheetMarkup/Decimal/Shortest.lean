import SheetMarkup.Decimal.Binary
import SheetMarkup.Decimal.Digits

/-!
# Shortest decimals

The shortest decimal of a float is the one with the fewest digits among those that are nearer to it
than to any other float; of several it is the nearest. With one digit after another the two
neighbours of the float on the decimal grid are tried, in whole numbers.

* `Tie`: which neighbour is taken when both are equally near
* `Interval`: the decimals that read back as one float
* `shortest`: the shortest decimal of an exact value
-/

namespace SheetMarkup.Decimal

inductive Tie where
  | up
  | even
  deriving DecidableEq, Repr

/-- A value and the bounds of what rounds to it, all over one denominator; the bounds belong to the
interval if it is closed. -/
structure Interval where
  low : Nat
  value : Nat
  high : Nat
  denominator : Nat
  closed : Bool
  deriving DecidableEq, Repr

def Binary.interval (b : Binary) : Interval :=
  let quarters := 4 * b.mantissa
  let below := if b.mantissa = hiddenBit && leastExponent < b.exponent then 1 else 2
  let factor := Nat.pow 2 (b.exponent - 2).toNat
  { low := (quarters - below) * factor
    value := quarters * factor
    high := (quarters + 2) * factor
    denominator := Nat.pow 2 (2 - b.exponent).toNat
    closed := b.mantissa % 2 == 0 }

namespace Interval

def onGrid (i : Interval) (scale : Int) : Interval :=
  let factor := Nat.pow 10 (-scale).toNat
  { i with
    low := i.low * factor
    value := i.value * factor
    high := i.high * factor
    denominator := i.denominator * Nat.pow 10 scale.toNat }

def contains (i : Interval) (units : Nat) : Bool :=
  let x := units * i.denominator
  if i.closed then i.low ≤ x && x ≤ i.high else i.low < x && x < i.high

/-- The whole number of units in the interval that is nearest to the value, if one of the two
neighbours of the value is in it. -/
def nearest? (tie : Tie) (i : Interval) : Option Nat :=
  let lower := i.value / i.denominator
  let twice := 2 * (i.value % i.denominator)
  match i.contains lower, i.contains (lower + 1) with
  | true, false => some lower
  | false, true => some (lower + 1)
  | false, false => none
  | true, true =>
    if twice < i.denominator then some lower
    else if i.denominator < twice then some (lower + 1)
    else
      match tie with
      | .up => some (lower + 1)
      | .even => some (lower + lower % 2)

end Interval

/-- Seventeen significant digits tell all floats apart. -/
def mostDigits : Nat := 17

def shortest (tie : Tie) (b : Binary) : Decimal :=
  if b.mantissa = 0 then ⟨b.negative, 0, 0⟩
  else
    let leading := magnitude b.numerator b.denominator
    let attempt (places : Nat) : Option Decimal :=
      let scale := leading - Int.ofNat places
      ((b.interval.onGrid scale).nearest? tie).map fun units => ⟨b.negative, units, scale⟩
    match (List.range mostDigits).findSome? attempt with
    | some d => d
    | none => rounded mostDigits b.negative b.numerator b.denominator

end SheetMarkup.Decimal
