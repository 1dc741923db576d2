/-!
# Addresses — column letters, row numbers and cell tokens

Columns are named by letters, `A` to `Z`, then `AA`, `AB` and so on: a numeral to base 26 whose
digits run from 1 to 26, so that there is no zero and every number from 1 has exactly one name.
Indices are machine words. A value that does not fit saturates at the largest of them.

* `columnNumber`: from letters to the number, saturating
* `columnLetters`: from the number to the letters
* `cellToken`: the text that refers to one cell, such as `[B3]`
* `readIndex`: an index as it is typed
-/

namespace SheetMarkup

def maxIndex : Nat := Nat.pow 2 64 - 1

/-- The digit from 1 to 26 that a letter of either case stands for. -/
def letterValue (c : Char) : Nat :=
  c.toUpper.toNat - 'A'.toNat + 1

def letterAt (digit : Nat) : Char :=
  Char.ofNat ('A'.toNat + digit)

/-- Number of a column from its letters, saturating; other characters are passed over. -/
def columnNumber (letters : List Char) : Nat :=
  (letters.filter Char.isAlpha).foldl (fun n c => min maxIndex (n * 26 + letterValue c)) 0

/-- The letters of `n` in front of `letters`, with `fuel` at least `n`. -/
def lettersOnto : (fuel n : Nat) → (letters : List Char) → List Char
  | 0, _, letters => letters
  | fuel + 1, n, letters =>
    if n = 0 then letters
    else lettersOnto fuel ((n - 1) / 26) (letterAt ((n - 1) % 26) :: letters)

def columnLetters (n : Nat) : List Char :=
  lettersOnto n n []

def cellToken (column row : Nat) : List Char :=
  '[' :: columnLetters column ++ Nat.toDigits 10 row ++ [']']

/-- The index written by decimal digits, unless there are none or it is too large. -/
def readDigits (digits : List Char) : Option Nat :=
  if digits.isEmpty || !digits.all Char.isDigit then none
  else
    let n := Nat.ofDigitChars 10 digits 0
    if n ≤ maxIndex then some n else none

/-- An index as typed: decimal digits, leading zeros included, after an optional plus sign. -/
def readIndex : List Char → Option Nat
  | '+' :: digits => readDigits digits
  | digits => readDigits digits

end SheetMarkup
