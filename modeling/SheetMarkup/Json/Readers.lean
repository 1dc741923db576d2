import SheetMarkup.Json.Basic

/-!
# Typed parts of a document

Each reader accepts the documents of one type and no other.

* `signed?`, `word?`: whole numbers of one size
* `idText?`: an id, which may be written as a number
-/

namespace SheetMarkup.Json

def string? : Json → Option String
  | .string text => some text
  | _ => none

def bool? : Json → Option Bool
  | .bool value => some value
  | _ => none

def signed? : Json → Option Int
  | .integer n => if isSigned n then some n else none
  | _ => none

def natural? (largest : Nat) : Json → Option Nat
  | .integer n => if 0 ≤ n && n ≤ Int.ofNat largest then some n.toNat else none
  | _ => none

def word? (document : Json) : Option UInt64 :=
  (document.natural? (Nat.pow 2 64 - 1)).map UInt64.ofNat

def word32? (document : Json) : Option UInt32 :=
  (document.natural? (Nat.pow 2 32 - 1)).map UInt32.ofNat

def list? {α : Type} (read : Json → Option α) : Json → Option (List α)
  | .array items => items.mapM read
  | _ => none

def nullable? {α : Type} (read : Json → Option α) : Json → Option (Option α)
  | .null => some none
  | document => (read document).map some

/-- An id. A whole number beyond a signed word is written as the float it is nearest to. -/
def idText? : Json → Option String
  | .string text => some text
  | .integer n => some (if isSigned n then toString n else Decimal.plainText (Float.ofInt n))
  | .float x => some (Decimal.plainText x)
  | _ => none

end SheetMarkup.Json
