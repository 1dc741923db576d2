import SheetMarkup.Json.Parser

/-!
# TOML strings and blanks

Strings come in four kinds: basic ones with escapes and literal ones without, each on one line or on
several. In those on several lines every line ends in a single line feed, a line break right after
the opening quotes does not count, and up to two quotes may stand before the closing ones.

* `skipBlanks`, `skipFiller`: blanks within a line, and blanks, line breaks and comments
* `readText`: a string of any kind
-/

namespace SheetMarkup.Toml

def isTab (c : Char) : Bool :=
  c == ' ' || c == '\t'

def skipBlanks (cs : List Char) : List Char :=
  cs.dropWhile isTab

/-- A character that may stand in a comment or a literal string: no control character but the
tab. -/
def isPrintable (c : Char) : Bool :=
  c == '\t' || (0x20 ≤ c.toNat && c.toNat != 0x7F)

def lineBreak? : List Char → Option (List Char)
  | '\n' :: cs => some cs
  | '\r' :: '\n' :: cs => some cs
  | _ => none

/-- The text after blanks, line breaks and comments; a comment must be of printable characters. -/
def skipFiller : (inComment : Bool) → List Char → Option (List Char)
  | _, '\n' :: cs => skipFiller false cs
  | _, '\r' :: '\n' :: cs => skipFiller false cs
  | true, c :: cs => if isPrintable c then skipFiller true cs else none
  | false, '#' :: cs => skipFiller true cs
  | false, c :: cs => if isTab c then skipFiller false cs else some (c :: cs)
  | _, [] => some []

/-- The rest of a line: blanks, perhaps a comment, and the line break or the end of the text. -/
def endOfLine? (cs : List Char) : Option (List Char) :=
  let rest := match skipBlanks cs with
    | '#' :: cs => cs.dropWhile isPrintable
    | cs => cs
  if rest.isEmpty then some [] else lineBreak? rest

/-! ## Strings -/

/-- The character with a code, unless the code is half of a surrogate pair or too large. -/
def charOfCode? (code : Nat) : Option Char :=
  if (0xD800 ≤ code && code < 0xE000) || 0x110000 ≤ code then none else some (Char.ofNat code)

/-- The character of an escape, whose backslash has been read, and the text after it. -/
def readEscape : List Char → Option (Char × List Char)
  | 'u' :: cs => do
    guard (4 ≤ cs.length)
    some (← charOfCode? (← Json.hexNumber? (cs.take 4)), cs.drop 4)
  | 'U' :: cs => do
    guard (8 ≤ cs.length)
    some (← charOfCode? (← Json.hexNumber? (cs.take 8)), cs.drop 8)
  | '/' :: _ => none
  | c :: cs => (Json.escaped? c).map fun code => (Char.ofNat code, cs)
  | [] => none

def readBasic : (fuel : Nat) → List Char → Option (List Char × List Char)
  | fuel + 1, c :: cs =>
    if c == '"' then some ([], cs)
    else if c == '\\' then do
      let (c, cs) ← readEscape cs
      (readBasic fuel cs).map fun (text, rest) => (c :: text, rest)
    else if isPrintable c then (readBasic fuel cs).map fun (text, rest) => (c :: text, rest)
    else none
  | _, _ => none

def readRaw : List Char → Option (List Char × List Char)
  | c :: cs =>
    if c == '\'' then some ([], cs)
    else if isPrintable c then (readRaw cs).map fun (text, rest) => (c :: text, rest)
    else none
  | [] => none

/-- The quotes before the closing three of a string on several lines, if the string ends here, and
the text after it. -/
def closing? (quote : Char) (cs : List Char) : Option (List Char × List Char) :=
  let quotes := cs.takeWhile (· == quote)
  if quotes.length < 3 then none
  else
    let kept := min 2 (quotes.length - 3)
    some (quotes.take kept, cs.drop (kept + 3))

def skipLines : List Char → List Char
  | '\n' :: cs => skipLines cs
  | '\r' :: '\n' :: cs => skipLines cs
  | c :: cs => if isTab c then skipLines cs else c :: cs
  | [] => []

def joinedLine? (cs : List Char) : Option (List Char) :=
  (lineBreak? (skipBlanks cs)).map skipLines

/-- The characters of a string on several lines up to its closing quotes. Only a basic string has
escapes. -/
def readLines (quote : Char) : (fuel : Nat) → List Char → Option (List Char × List Char)
  | fuel + 1, c :: cs =>
    match closing? quote (c :: cs), lineBreak? (c :: cs) with
    | some (text, rest), _ => some (text, rest)
    | none, some rest => (readLines quote fuel rest).map fun (text, rest) => ('\n' :: text, rest)
    | none, none =>
      if c == '\\' && quote == '"' then
        match joinedLine? cs with
        | some rest => readLines quote fuel rest
        | none => do
          let (c, cs) ← readEscape cs
          (readLines quote fuel cs).map fun (text, rest) => (c :: text, rest)
      else if isPrintable c then
        (readLines quote fuel cs).map fun (text, rest) => (c :: text, rest)
      else none
  | _, _ => none

def readLineText : List Char → Option (List Char × List Char)
  | '"' :: cs => readBasic cs.length cs
  | '\'' :: cs => readRaw cs
  | _ => none

def readText : List Char → Option (List Char × List Char)
  | '"' :: '"' :: '"' :: cs => readLines '"' cs.length ((lineBreak? cs).getD cs)
  | '\'' :: '\'' :: '\'' :: cs => readLines '\'' cs.length ((lineBreak? cs).getD cs)
  | cs => readLineText cs

end SheetMarkup.Toml
