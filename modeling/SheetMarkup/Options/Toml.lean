import SheetMarkup.Options.Json
import SheetMarkup.Toml.Document

/-!
# Options from TOML
-/

namespace SheetMarkup

/-- The options that a TOML document gives, its keys read in their order. -/
def RenderOptions.ofToml (text : String) : Except InputError RenderOptions :=
  match Toml.parse text with
  | none => .error (.unreadable "the text is not a document")
  | some members =>
    match RenderOptions.ofMembers members with
    | .ok options => .ok options
    | .error fault => .error fault.toInputError

end SheetMarkup
