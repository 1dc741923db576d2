/-!
# Safe text — cell text inside markup

Cells may hold markup on purpose, so a text is not escaped as a whole. An ampersand that does not
start a character reference is written as one, and line breaks may be made visible.

* `startsEntity`: whether an ampersand before a text starts a character reference
* `encodeAmpersands`: all other ampersands written out
* `markLineBreaks`: a break element before every line break
* `safeText`: both
-/

namespace SheetMarkup.Markup

/-- A letter of a reference name when case is ignored: a basic letter, or one of the two other
characters that S and K match. -/
def isNameLetter (c : Char) : Bool :=
  c.isAlpha || c == '\u017F' || c == '\u212A'

def isHexDigit (c : Char) : Bool :=
  c.isDigit || ('a' ≤ c && c ≤ 'f') || ('A' ≤ c && c ≤ 'F')

/-- Whether a text has characters of a kind at its start, at least one, and then a semicolon. -/
def runThenSemicolon (kind : Char → Bool) (cs : List Char) : Bool :=
  !(cs.takeWhile kind).isEmpty && (cs.dropWhile kind).head? == some ';'

/-- Whether the text behind an ampersand makes it a character reference: by a decimal number, by a
hexadecimal number or by a name. -/
def startsEntity : List Char → Bool
  | '#' :: c :: cs =>
    runThenSemicolon Char.isDigit (c :: cs) ||
      ((c == 'x' || c == 'X') && runThenSemicolon isHexDigit cs)
  | c :: cs =>
    isNameLetter c && runThenSemicolon (fun c => isNameLetter c || c.isDigit) (c :: cs)
  | [] => false

/-- A text with the ampersands that start no character reference written as references. -/
def encodeAmpersands : List Char → List Char
  | [] => []
  | c :: cs =>
    if c = '&' && !startsEntity cs then "&amp;".toList ++ encodeAmpersands cs
    else c :: encodeAmpersands cs

def breakElement : List Char := "<br />".toList

/-- A text with a break element before every line break. -/
def markLineBreaks : List Char → List Char
  | '\r' :: '\n' :: cs => breakElement ++ '\r' :: '\n' :: markLineBreaks cs
  | '\r' :: cs => breakElement ++ '\r' :: markLineBreaks cs
  | '\n' :: cs => breakElement ++ '\n' :: markLineBreaks cs
  | c :: cs => c :: markLineBreaks cs
  | [] => []

def safeText (text : String) (showLineBreaks : Bool) : String :=
  let encoded := encodeAmpersands text.toList
  String.ofList (if showLineBreaks then markLineBreaks encoded else encoded)

end SheetMarkup.Markup
