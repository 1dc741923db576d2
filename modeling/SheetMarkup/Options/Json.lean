import SheetMarkup.Diagnostic.InputError
import SheetMarkup.Json.Readers
import SheetMarkup.Options.Heading

/-!
# Options as JSON

An options object has a member for each option that is not left at its default. Switches are written
as booleans or as numbers, of which a negative one leaves the option open; members that name no
option are passed over.

* `OptionsFault`: what is wrong with a member
* `RenderOptions.ofMembers`: the options that members give, read in their order
* `RenderOptions.toJson`: the object that gives all the options
-/

namespace SheetMarkup

inductive OptionsFault where
  | notObject
  | wrongType (key : String)
  | unknownPosition (text : String)
  deriving DecidableEq, Repr

def OptionsFault.message : OptionsFault → String
  | .notObject => "the options are not an object"
  | .wrongType key => "the option " ++ key ++ " has a wrong type"
  | .unknownPosition text => "invalid name position '" ++ text ++ "'"

def OptionsFault.toInputError (fault : OptionsFault) : InputError :=
  .unreadable fault.message

namespace Preference

def ofJson? : Json → Option Preference
  | .bool value => some (ofBool value)
  | document => document.signed?.map fun n => if n < 0 then .unset else ofBool (n != 0)

def toJson : Preference → Json
  | .unset => .integer (-1)
  | .on => .bool true
  | .off => .bool false

end Preference

namespace HeadingChoice

def ofJson (key : String) : Json → Except OptionsFault HeadingChoice
  | .bool value => .ok (if value then .above else .off)
  | .string text =>
    match ofText? text with
    | some choice => .ok choice
    | none => .error (.unknownPosition text)
  | document =>
    match document.signed? with
    | some n => .ok (if n < 0 then .unset else if n = 0 then .off else .above)
    | none => .error (.wrongType key)

def toJson : HeadingChoice → Json
  | .unset => .integer (-1)
  | .off => .bool false
  | .above => .string "above"
  | .below => .string "below"

end HeadingChoice

/-! ## Reading -/

def typed {α : Type} (key : String) : Option α → Except OptionsFault α
  | some value => .ok value
  | none => .error (.wrongType key)

def BrowserOptions.setMember (o : BrowserOptions) (member : String × Json) :
    Except OptionsFault BrowserOptions :=
  let (key, value) := member
  let switch := typed key (Preference.ofJson? value)
  match key with
  | "datatables_sort" => switch.map ({ o with sort := · })
  | "datatables_filter" => switch.map ({ o with filter := · })
  | "datatables_paginate" => switch.map ({ o with paginate := · })
  | "datatables_lengthchange" => switch.map ({ o with lengthChange := · })
  | "datatables_paginate_entries" =>
    (typed key (value.nullable? Json.word32?)).map ({ o with paginateEntries := · })
  | "datatables_info" => switch.map ({ o with info := · })
  | "datatables_scrollx" => switch.map ({ o with scrollX := · })
  | "datatables_custom_commands" =>
    (typed key (value.nullable? Json.string?)).map ({ o with customCommands := · })
  | _ => .ok o

def RenderOptions.setMember (o : RenderOptions) (member : String × Json) :
    Except OptionsFault RenderOptions :=
  let (key, value) := member
  let switch := typed key (Preference.ofJson? value)
  let words := typed key (value.list? Json.word?)
  let text? := typed key (value.nullable? Json.string?)
  match key with
  | "id" => (typed key (value.nullable? Json.idText?)).map ({ o with id := · })
  | "column_widths" => (typed key (value.list? Json.string?)).map ({ o with columnWidths := · })
  | "alternating_row_colors" => switch.map ({ o with alternatingRowColors := · })
  | "row_hover" => switch.map ({ o with rowHover := · })
  | "table_head" => switch.map ({ o with tableHead := · })
  | "first_column_th" => (typed key value.bool?).map ({ o with firstColumnHead := · })
  | "table_foot" => switch.map ({ o with tableFoot := · })
  | "print_name" => (HeadingChoice.ofJson key value).map ({ o with printName := · })
  | "print_description" => (HeadingChoice.ofJson key value).map ({ o with printDescription := · })
  | "cache_table_output" => switch.map ({ o with cacheOutput := · })
  | "extra_css_classes" => (typed key value.string?).map ({ o with extraClasses := · })
  | "use_datatables" => switch.map ({ o with useBrowser := · })
  | "row_offset" => (typed key value.word?).map ({ o with rowOffset := · })
  | "row_count" => (typed key (value.nullable? Json.word?)).map ({ o with rowCount := · })
  | "show_rows" => words.map ({ o with showRows := · })
  | "show_columns" => words.map ({ o with showColumns := · })
  | "hide_rows" => words.map ({ o with hideRows := · })
  | "hide_columns" => words.map ({ o with hideColumns := · })
  | "cellspacing" => text?.map ({ o with cellSpacing := · })
  | "cellpadding" => text?.map ({ o with cellPadding := · })
  | "border" => text?.map ({ o with border := · })
  | "html_id" => (typed key value.string?).map ({ o with htmlId := · })
  | _ => .ok o

/-- The options that members give. Those of browsers are read after all others. -/
def RenderOptions.ofMembers (members : List (String × Json)) :
    Except OptionsFault RenderOptions := do
  let options ← members.foldlM RenderOptions.setMember {}
  let browser ← members.foldlM BrowserOptions.setMember {}
  .ok { options with browser }

/-- The options of an object; its members are read in the order of their keys. -/
def RenderOptions.ofJson : Json → Except OptionsFault RenderOptions
  | .object members => ofMembers (members.mergeSort fun a b => a.1 ≤ b.1)
  | _ => .error .notObject

/-! ## Writing -/

def wordJson (n : UInt64) : Json :=
  .integer (Int.ofNat n.toNat)

def wordsJson (ns : List UInt64) : Json :=
  .array (ns.map wordJson)

def textJson? (text : Option String) : Json :=
  text.elim .null .string

def RenderOptions.members (o : RenderOptions) : List (String × Json) :=
  [("alternating_row_colors", o.alternatingRowColors.toJson),
   ("border", textJson? o.border),
   ("cache_table_output", o.cacheOutput.toJson),
   ("cellpadding", textJson? o.cellPadding),
   ("cellspacing", textJson? o.cellSpacing),
   ("column_widths", .array (o.columnWidths.map .string)),
   ("datatables_custom_commands", textJson? o.browser.customCommands),
   ("datatables_filter", o.browser.filter.toJson),
   ("datatables_info", o.browser.info.toJson),
   ("datatables_lengthchange", o.browser.lengthChange.toJson),
   ("datatables_paginate", o.browser.paginate.toJson),
   ("datatables_paginate_entries",
     o.browser.paginateEntries.elim .null fun n => .integer (Int.ofNat n.toNat)),
   ("datatables_scrollx", o.browser.scrollX.toJson),
   ("datatables_sort", o.browser.sort.toJson),
   ("extra_css_classes", .string o.extraClasses),
   ("first_column_th", .bool o.firstColumnHead),
   ("hide_columns", wordsJson o.hideColumns),
   ("hide_rows", wordsJson o.hideRows),
   ("html_id", .string o.htmlId),
   ("id", textJson? o.id),
   ("print_description", o.printDescription.toJson),
   ("print_name", o.printName.toJson),
   ("row_count", o.rowCount.elim .null wordJson),
   ("row_hover", o.rowHover.toJson),
   ("row_offset", wordJson o.rowOffset),
   ("show_columns", wordsJson o.showColumns),
   ("show_rows", wordsJson o.showRows),
   ("table_foot", o.tableFoot.toJson),
   ("table_head", o.tableHead.toJson),
   ("use_datatables", o.useBrowser.toJson)]

def RenderOptions.toJson (o : RenderOptions) : Json :=
  .object o.members

end SheetMarkup
