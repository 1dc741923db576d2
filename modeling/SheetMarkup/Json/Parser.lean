import SheetMarkup.Json.Number

/-!
# Reading JSON

The grammar is the strict one: no comments, no comma at an end, no control characters in strings,
nothing after the document but blanks.

* `readString`, `readNumber`: the tokens that have an inside
* `readValue`: one document at the start of a text
* `Json.parse`: a text that is one document
-/

namespace SheetMarkup.Json

def isSpace (c : Char) : Bool :=
  c == ' ' || c == '\t' || c == '\n' || c == '\r'

def skipSpace (cs : List Char) : List Char :=
  cs.dropWhile isSpace

/-! ## Strings -/

def hexDigit? (c : Char) : Option Nat :=
  if c.isDigit then some (c.toNat - '0'.toNat)
  else if 'a' ≤ c && c ≤ 'f' then some (c.toNat - 'a'.toNat + 10)
  else if 'A' ≤ c && c ≤ 'F' then some (c.toNat - 'A'.toNat + 10)
  else none

def hexNumber? (digits : List Char) : Option Nat :=
  digits.foldlM (fun n c => (hexDigit? c).map (n * 16 + ·)) 0

def escaped? : Char → Option Nat
  | '"' => some 0x22
  | '\\' => some 0x5C
  | '/' => some 0x2F
  | 'b' => some 0x08
  | 'f' => some 0x0C
  | 'n' => some 0x0A
  | 'r' => some 0x0D
  | 't' => some 0x09
  | _ => none

/-- The codes of a string whose opening quote has been read, and the text after its closing quote.
An escape may write half of a surrogate pair. -/
def stringCodes : List Char → Option (List Nat × List Char)
  | [] => none
  | '"' :: cs => some ([], cs)
  | '\\' :: 'u' :: c₁ :: c₂ :: c₃ :: c₄ :: cs => do
    let code ← hexNumber? [c₁, c₂, c₃, c₄]
    let (codes, rest) ← stringCodes cs
    some (code :: codes, rest)
  | '\\' :: c :: cs => do
    let code ← escaped? c
    let (codes, rest) ← stringCodes cs
    some (code :: codes, rest)
  | c :: cs => do
    guard (0x20 ≤ c.toNat)
    let (codes, rest) ← stringCodes cs
    some (c.toNat :: codes, rest)

/-- The characters of codes, the two halves of each surrogate pair joined; a half alone is none. -/
def joinSurrogates : List Nat → Option (List Char)
  | [] => some []
  | high :: low :: codes =>
    if 0xD800 ≤ high && high < 0xDC00 then
      if 0xDC00 ≤ low && low < 0xE000 then
        (joinSurrogates codes).map
          (Char.ofNat (0x10000 + (high - 0xD800) * 0x400 + (low - 0xDC00)) :: ·)
      else none
    else if 0xDC00 ≤ high && high < 0xE000 then none
    else (joinSurrogates (low :: codes)).map (Char.ofNat high :: ·)
  | [code] => if 0xD800 ≤ code && code < 0xE000 then none else some [Char.ofNat code]

/-- A string whose opening quote has been read; it may have no value. -/
def readString (cs : List Char) : Option (Option String × List Char) :=
  (stringCodes cs).map fun (codes, rest) => ((joinSurrogates codes).map String.ofList, rest)

/-! ## Numbers -/

def readDigits (cs : List Char) : Option (List Char × List Char) :=
  let digits := cs.takeWhile Char.isDigit
  if digits.isEmpty then none else some (digits, cs.dropWhile Char.isDigit)

/-- The whole part of a number: a zero alone, or digits that start with another one. -/
def readWhole : List Char → Option (List Char × List Char)
  | '0' :: cs => some (['0'], cs)
  | cs => readDigits cs

def readNumber (cs : List Char) : Option (NumberText × List Char) := do
  let (negative, cs) := match cs with
    | '-' :: cs => (true, cs)
    | cs => (false, cs)
  let (whole, cs) ← readWhole cs
  let (fraction, cs) ← match cs with
    | '.' :: cs => readDigits cs
    | cs => some ([], cs)
  let (exponent, cs) ← match cs with
    | c :: cs =>
      if c == 'e' || c == 'E' then
        let (negative, cs) := match cs with
          | '-' :: cs => (true, cs)
          | '+' :: cs => (false, cs)
          | cs => (false, cs)
        (readDigits cs).map fun (digits, cs) => (some (negative, digits), cs)
      else some (none, c :: cs)
    | [] => some (none, [])
  some ({ negative, whole, fraction, exponent }, cs)

/-! ## Documents -/

def readScalar (cs : List Char) : Option (Json × List Char) :=
  match "null".toList.isPrefixOf? cs, "true".toList.isPrefixOf? cs,
      "false".toList.isPrefixOf? cs with
  | some rest, _, _ => some (.null, rest)
  | _, some rest, _ => some (.bool true, rest)
  | _, _, some rest => some (.bool false, rest)
  | none, none, none => (readNumber cs).map fun (n, rest) => (n.value, rest)

/-- An object of members, which has no value if one of its keys has none. -/
def objectOf (members : List (Option String × Json)) : Json :=
  match members.mapM fun (key, value) => key.map fun key => (key, value) with
  | some members => .object members
  | none => .unreadable

mutual

def readValue : (fuel : Nat) → List Char → Option (Json × List Char)
  | 0, _ => none
  | fuel + 1, cs =>
    match skipSpace cs with
    | '{' :: cs =>
      match skipSpace cs with
      | '}' :: cs => some (.object [], cs)
      | cs => (readMembers fuel cs).map fun (members, rest) => (objectOf members, rest)
    | '[' :: cs =>
      match skipSpace cs with
      | ']' :: cs => some (.array [], cs)
      | cs => (readItems fuel cs).map fun (items, rest) => (.array items, rest)
    | '"' :: cs => (readString cs).map fun (text, rest) => (text.elim .unreadable .string, rest)
    | cs => readScalar cs

def readItems : (fuel : Nat) → List Char → Option (List Json × List Char)
  | 0, _ => none
  | fuel + 1, cs => do
    let (item, rest) ← readValue fuel cs
    match skipSpace rest with
    | ',' :: rest => (readItems fuel rest).map fun (items, rest) => (item :: items, rest)
    | ']' :: rest => some ([item], rest)
    | _ => none

def readMembers : (fuel : Nat) → List Char → Option (List (Option String × Json) × List Char)
  | 0, _ => none
  | fuel + 1, cs =>
    match skipSpace cs with
    | '"' :: cs => do
      let (key, rest) ← readString cs
      match skipSpace rest with
      | ':' :: rest => do
        let (value, rest) ← readValue fuel rest
        match skipSpace rest with
        | ',' :: rest =>
          (readMembers fuel rest).map fun (members, rest) => ((key, value) :: members, rest)
        | '}' :: rest => some ([(key, value)], rest)
        | _ => none
      | _ => none
    | _ => none

end

/-- The document a text consists of. Two steps per character are enough: each value takes one. -/
def parse (text : String) : Option Json :=
  let cs := text.toList
  match readValue (2 * cs.length + 2) cs with
  | some (document, rest) => if (skipSpace rest).isEmpty then some document else none
  | none => none

end SheetMarkup.Json
