import SheetMarkup.Json.Basic

/-!
# JSON numbers

A whole number that fits a 64-bit word is kept exactly. Any other number is read as its leading
digits, as many as fit a word, times a power of ten, with one rounding for the digits and one for
the power.

* `NumberText`: the parts of a written number
* `NumberText.value`: the number they stand for
-/

namespace SheetMarkup.Json

/-- The digits of a number by their place; a fraction without digits is none. -/
structure NumberText where
  negative : Bool
  whole : List Char
  fraction : List Char := []
  /-- Whether the exponent is negative, and its digits. -/
  exponent : Option (Bool × List Char) := none
  deriving DecidableEq, Repr

def maxWord : Nat := Nat.pow 2 64 - 1

def maxExponent : Nat := Nat.pow 2 31 - 1

/-- Leading digits that fit a word, from `start` on, and how many were not taken. -/
def leadingDigits (start : Nat) : List Char → Nat × Nat
  | [] => (start, 0)
  | c :: cs =>
    let next := start * 10 + (c.toNat - '0'.toNat)
    if next ≤ maxWord then leadingDigits next cs else (start, cs.length + 1)

/-- A float times a power of ten between -308 and 308, in one step; larger negative powers in
several. There is none beyond the largest float. -/
def scaleByTen : (steps : Nat) → Float → Int → Option Float
  | 0, x, _ => some x
  | steps + 1, x, exponent =>
    if exponent.natAbs ≤ 308 then
      let power := Float.ofScientific 1 false exponent.natAbs
      if 0 ≤ exponent then
        let y := x * power
        if y.isInf then none else some y
      else some (x / power)
    else if x == 0.0 then some x
    else if 0 ≤ exponent then none
    else scaleByTen steps (x / Float.ofScientific 1 false 308) (exponent + 308)

namespace NumberText

/-- The float of a number written with a fraction, an exponent or more digits than fit a word. -/
def float? (n : NumberText) : Option Float :=
  let (whole, dropped) := leadingDigits 0 n.whole
  let (digits, left) := leadingDigits whole n.fraction
  let places := Int.ofNat dropped - Int.ofNat (n.fraction.length - left)
  let unsigned := match n.exponent with
    | none => scaleByTen 5 (Float.ofNat digits) places
    | some (negative, exponent) =>
      let size := Nat.ofDigitChars 10 exponent 0
      if maxExponent < size then
        if digits = 0 || negative then some 0.0 else none
      else
        scaleByTen 5 (Float.ofNat digits)
          (if negative then places - Int.ofNat size else places + Int.ofNat size)
  unsigned.map fun x => if n.negative then -x else x

/-- The number a text stands for. A negative zero is a float. -/
def value (n : NumberText) : Json :=
  let size := Int.ofNat (Nat.ofDigitChars 10 n.whole 0)
  let whole := if n.negative then -size else size
  if n.fraction.isEmpty && n.exponent.isNone && isWord whole && !(n.negative && size == 0) then
    .integer whole
  else n.float?.elim .unreadable .float

end NumberText
end SheetMarkup.Json
