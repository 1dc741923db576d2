import SheetMarkup.Json.Basic

/-!
# TOML scalars

Everything that is not a string or a container is a word of letters, digits and a few signs: a
boolean, a whole number to one of four bases, a float, or a date, a time or both.

* `integer?`, `float?`, `isDateTime`: the numbers and dates
* `scalar?`: what a word stands for; a date has no counterpart in JSON
-/

namespace SheetMarkup.Toml

def isScalarChar (c : Char) : Bool :=
  c.isAlphanum || c == '_' || c == '+' || c == '-' || c == '.' || c == ':'

/-- The digits of a number with single underscores between them. -/
def ungrouped? (isDigit : Char → Bool) : List Char → Option (List Char)
  | [c] => if isDigit c then some [c] else none
  | c :: '_' :: cs => if isDigit c then (ungrouped? isDigit cs).map (c :: ·) else none
  | c :: cs => if isDigit c then (ungrouped? isDigit cs).map (c :: ·) else none
  | [] => none

def readSign : List Char → Bool × List Char
  | '-' :: cs => (true, cs)
  | '+' :: cs => (false, cs)
  | cs => (false, cs)

/-- The digits of a decimal number, which does not start with a zero unless it is one. -/
def decimalDigits? (cs : List Char) : Option (List Char) :=
  match ungrouped? Char.isDigit cs with
  | some ('0' :: _ :: _) => none
  | digits => digits

def digitValue (c : Char) : Nat :=
  if c.isDigit then c.toNat - '0'.toNat else c.toLower.toNat - 'a'.toNat + 10

def digitsValue (base : Nat) (digits : List Char) : Nat :=
  digits.foldl (fun n c => n * base + digitValue c) 0

def isHexDigit (c : Char) : Bool :=
  c.isDigit || ('a' ≤ c.toLower && c.toLower ≤ 'f')

def wholeNumber? : List Char → Option Int
  | '0' :: 'x' :: cs => (ungrouped? isHexDigit cs).map fun ds => Int.ofNat (digitsValue 16 ds)
  | '0' :: 'o' :: cs =>
    (ungrouped? (fun c => '0' ≤ c && c ≤ '7') cs).map fun ds => Int.ofNat (digitsValue 8 ds)
  | '0' :: 'b' :: cs =>
    (ungrouped? (fun c => c == '0' || c == '1') cs).map fun ds => Int.ofNat (digitsValue 2 ds)
  | cs =>
    let (negative, cs) := readSign cs
    (decimalDigits? cs).map fun digits =>
      let n := Int.ofNat (digitsValue 10 digits)
      if negative then -n else n

def integer? (cs : List Char) : Option Int :=
  (wholeNumber? cs).bind fun n => if Json.isSigned n then some n else none

/-- A decimal with a fraction or an exponent or both. -/
def decimal? (cs : List Char) : Option Decimal := do
  let (negative, cs) := readSign cs
  let isExponentMark (c : Char) := c == 'e' || c == 'E'
  let mantissa := cs.takeWhile fun c => !isExponentMark c
  let (negativeExponent, exponent) ← match cs.dropWhile fun c => !isExponentMark c with
    | [] => some (false, [])
    | _ :: cs =>
      let (negative, cs) := readSign cs
      (ungrouped? Char.isDigit cs).map fun digits => (negative, digits)
  let whole ← decimalDigits? (mantissa.takeWhile (· != '.'))
  let fraction ← match mantissa.dropWhile (· != '.') with
    | [] => some []
    | _ :: cs => ungrouped? Char.isDigit cs
  guard (!(exponent.isEmpty && fraction.isEmpty))
  let size := Int.ofNat (digitsValue 10 exponent)
  some
    { negative
      digits := digitsValue 10 (whole ++ fraction)
      scale := (if negativeExponent then -size else size) - Int.ofNat fraction.length }

/-- A float: a decimal that is not beyond the largest float, or a word for what is no number. -/
def float? (cs : List Char) : Option Float :=
  let (negative, word) := readSign cs
  if word = ['i', 'n', 'f'] then some (if negative then -1.0 / 0.0 else 1.0 / 0.0)
  else if word = ['n', 'a', 'n'] then some (0.0 / 0.0)
  else
    (decimal? cs).bind fun d =>
      let x := d.toFloat
      if x == 1.0 / 0.0 then none else some x

/-! ## Dates and times -/

def readField (places : Nat) (cs : List Char) : Option (Nat × List Char) :=
  let digits := cs.take places
  if digits.length = places && digits.all Char.isDigit then
    some (digitsValue 10 digits, cs.drop places)
  else none

def after? (c : Char) : List Char → Option (List Char)
  | d :: cs => if c = d then some cs else none
  | [] => none

def daysIn (year month : Nat) : Nat :=
  if month = 2 then
    if year % 4 = 0 && (year % 100 ≠ 0 || year % 400 = 0) then 29 else 28
  else if month = 4 || month = 6 || month = 9 || month = 11 then 30
  else 31

def afterDate? (cs : List Char) : Option (List Char) := do
  let (year, cs) ← readField 4 cs
  let (month, cs) ← readField 2 (← after? '-' cs)
  let (day, cs) ← readField 2 (← after? '-' cs)
  guard (1 ≤ month && month ≤ 12 && 1 ≤ day && day ≤ daysIn year month)
  some cs

/-- The text after a time of day, which may end in a leap second and have a fraction. -/
def afterTime? (cs : List Char) : Option (List Char) := do
  let (hour, cs) ← readField 2 cs
  let (minute, cs) ← readField 2 (← after? ':' cs)
  let (second, cs) ← readField 2 (← after? ':' cs)
  guard (hour ≤ 23 && minute ≤ 59 && second ≤ 60)
  match cs with
  | '.' :: cs =>
    guard (!(cs.takeWhile Char.isDigit).isEmpty)
    some (cs.dropWhile Char.isDigit)
  | cs => some cs

def isOffset (cs : List Char) : Bool :=
  match cs with
  | [] | ['Z'] | ['z'] => true
  | sign :: cs =>
    (sign == '+' || sign == '-') &&
      match readField 2 cs with
      | some (hour, ':' :: cs) =>
        match readField 2 cs with
        | some (minute, []) => hour ≤ 23 && minute ≤ 59
        | _ => false
      | _ => false

/-- Whether a text is a time of day, with a time zone if it may have one. -/
def isTime (mayHaveOffset : Bool) (cs : List Char) : Bool :=
  match afterTime? cs with
  | some rest => rest.isEmpty || (mayHaveOffset && isOffset rest)
  | none => false

/-- Whether a text is a date, a time, or a date and a time with a mark between. -/
def isDateTime (cs : List Char) : Bool :=
  match afterDate? cs with
  | some [] => true
  | some (mark :: rest) => (mark == 'T' || mark == 't' || mark == ' ') && isTime true rest
  | none => isTime false cs

def scalar? (word : List Char) : Option Json :=
  if word = "true".toList then some (.bool true)
  else if word = "false".toList then some (.bool false)
  else if isDateTime word then some .unreadable
  else
    match integer? word, float? word with
    | some n, _ => some (.integer n)
    | none, some x => some (.float x)
    | none, none => none

/-- A scalar at the start of a text. A date and its time may have a single blank between. -/
def readScalar (cs : List Char) : Option (Json × List Char) :=
  let word := cs.takeWhile isScalarChar
  let rest := cs.dropWhile isScalarChar
  let later := match rest with
    | ' ' :: cs => cs
    | _ => []
  let time := later.takeWhile isScalarChar
  if !time.isEmpty && afterDate? word == some [] then
    if isDateTime (word ++ ' ' :: time) then some (.unreadable, later.dropWhile isScalarChar)
    else none
  else (scalar? word).map fun document => (document, rest)

end SheetMarkup.Toml
