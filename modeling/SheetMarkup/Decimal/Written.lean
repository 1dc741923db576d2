import SheetMarkup.Decimal.Shortest

/-!
# Written numbers

The text of a decimal is made of its significant digits and the place of the point. Two formats are
in use: the plain one writes every digit out, the data one keeps a fraction on whole numbers and
moves to an exponent for very large and very small values.

* `plainText`: the plain format of a float
* `dataText`: the data format of a finite float
* `resultText`: the plain format of a result, at fourteen significant digits
* `readLiteral`: a number as an expression writes it
-/

namespace SheetMarkup.Decimal

/-- Significant digits without zeros at the end, and the number of digits before the point. -/
def significant (d : Decimal) : List Char × Int :=
  let all := Nat.toDigits 10 d.digits
  ((all.reverse.dropWhile (· == '0')).reverse, Int.ofNat all.length + d.scale)

def withSign (negative : Bool) (text : List Char) : List Char :=
  if negative then '-' :: text else text

/-- Digits with the point after the first `point` of them, zeros filling the gaps; `whole` follows
a number without a fraction. -/
def positional (whole : List Char) (digits : List Char) (point : Int) : List Char :=
  let zeros (n : Int) := List.replicate n.toNat '0'
  if point ≤ 0 then '0' :: '.' :: zeros (-point) ++ digits
  else if Int.ofNat digits.length ≤ point then
    digits ++ zeros (point - Int.ofNat digits.length) ++ whole
  else digits.take point.toNat ++ '.' :: digits.drop point.toNat

/-- Digits with one of them before the point, and an exponent with its sign. -/
def scientific (digits : List Char) (point : Int) : List Char :=
  let fraction := if digits.length ≤ 1 then [] else '.' :: digits.drop 1
  let exponent := point - 1
  digits.take 1 ++ fraction ++ 'e' :: (if exponent < 0 then '-' else '+')
    :: Nat.toDigits 10 exponent.natAbs

/-- Every digit of a decimal, and no fraction on a whole number. -/
def plain (d : Decimal) : List Char :=
  if d.digits = 0 then withSign d.negative ['0']
  else
    let (digits, point) := d.significant
    withSign d.negative (positional [] digits point)

def plainText (x : Float) : String :=
  match FloatValue.of x with
  | .undefined => "NaN"
  | .infinite negative => if negative then "-inf" else "inf"
  | .finite b => String.ofList (shortest .up b).plain

/-- The data format: positional for decimal exponents from -5 to 15, where a whole number ends in
`.0`, and scientific otherwise. -/
def dataDigits (d : Decimal) : List Char :=
  if d.digits = 0 then withSign d.negative ['0', '.', '0']
  else
    let (digits, point) := d.significant
    withSign d.negative
      (if -5 < point && point ≤ 16 then positional ['.', '0'] digits point
       else scientific digits point)

def dataText (x : Float) : String :=
  match FloatValue.of x with
  | .finite b => String.ofList (dataDigits (shortest .even b))
  | _ => "null"

def resultDigits : Nat := 14

def roundResult (x : Float) : Float :=
  match FloatValue.of x with
  | .finite b =>
    if b.mantissa = 0 then x
    else (rounded resultDigits b.negative b.numerator b.denominator).toFloat
  | _ => x

/-- The text of a result: rounded, plain, and without a sign on zero. -/
def resultText (x : Float) : String :=
  let y := roundResult x
  if y == 0.0 then "0" else plainText y

def isLiteralChar (c : Char) : Bool :=
  c.isDigit || c == '.'

/-- The value of a literal of digits with at most one point, before or after which digits may be
missing, but not on both sides. -/
def readLiteral (literal : List Char) : Option Float :=
  let whole := literal.takeWhile (· != '.')
  let fraction := (literal.dropWhile (· != '.')).drop 1
  let digits := whole ++ fraction
  if digits.isEmpty || !digits.all Char.isDigit then none
  else some (toFloat ⟨false, Nat.ofDigitChars 10 digits 0, -Int.ofNat fraction.length⟩)

end SheetMarkup.Decimal
