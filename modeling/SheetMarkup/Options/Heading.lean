import SheetMarkup.Options.Basic
import SheetMarkup.Text.Blank
import SheetMarkup.Text.Lowercase

/-!
# Words for the place of a heading
-/

namespace SheetMarkup

/-- The choice a word stands for, in any case and with blanks around it. -/
def HeadingChoice.ofText? (text : String) : Option HeadingChoice :=
  match Text.lowercase (Text.trim text) with
  | "above" | "true" => some .above
  | "below" => some .below
  | "off" | "false" | "no" | "none" => some .off
  | "-1" | "unset" | "" => some .unset
  | _ => none

end SheetMarkup
