/-!
# Input errors — why a table or its options cannot be used
-/

namespace SheetMarkup

inductive InputError where
  /-- The text is not in its format, at a line and column as far as they are known. -/
  | malformed (message : String) (line column : Option Nat)
  /-- The text is in its format and says something that cannot be. -/
  | invalid (message : String)
  /-- A file cannot be read or written. -/
  | io (message : String)
  deriving DecidableEq, Repr

namespace InputError

def message : InputError → String
  | .malformed message (some line) (some column) =>
    "Parse error at line " ++ toString line ++ ", column " ++ toString column ++ ": " ++ message
  | .malformed message (some line) none =>
    "Parse error at line " ++ toString line ++ ": " ++ message
  | .malformed message none _ => "Parse error: " ++ message
  | .invalid message => "Invalid input: " ++ message
  | .io message => "IO error: " ++ message

def unreadable (message : String) : InputError :=
  .malformed message none none

end InputError
end SheetMarkup
