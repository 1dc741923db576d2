import SheetMarkup.Decimal.Written

/-!
# JSON documents

A document is kept as it is written: an object is a list of members, in order and with repeated keys.
A part of a text may be well formed and yet stand for nothing, such as a number beyond all floats; it
is kept as unreadable, so that a reader who passes it over does not fail on it.

* `Json`: the documents
* `Json.member?`: the member of an object that counts
* `Json.isReadable`: whether everything in a document stands for something
-/

namespace SheetMarkup

inductive Json where
  | null
  | bool (value : Bool)
  /-- A whole number that fits a signed or an unsigned 64-bit word. -/
  | integer (value : Int)
  | float (value : Float)
  | string (text : String)
  | array (items : List Json)
  | object (members : List (String × Json))
  /-- Well-formed text without a value. -/
  | unreadable
  deriving Repr, Inhabited

namespace Json

def isWord (n : Int) : Bool :=
  -Int.pow 2 63 ≤ n && n < Int.pow 2 64

def isSigned (n : Int) : Bool :=
  -Int.pow 2 63 ≤ n && n < Int.pow 2 63

def lastMember? (members : List (String × Json)) (key : String) : Option Json :=
  members.reverse.lookup key

def maxNesting : Nat := 127

/-- Whether a document of at most the given nesting has a value throughout. -/
def isReadable : (nesting : Nat) → Json → Bool
  | _, .unreadable => false
  | nesting + 1, .array items => items.all (isReadable nesting)
  | nesting + 1, .object members => members.all fun member => isReadable nesting member.2
  | 0, .array _ => false
  | 0, .object _ => false
  | _, _ => true

def cellText? : Json → Option String
  | .null => some ""
  | .bool value => some (toString value)
  | .integer value => some (toString value)
  | .float value => some (Decimal.dataText value)
  | .string text => some text
  | .array _ | .object _ | .unreadable => none

end Json
end SheetMarkup
