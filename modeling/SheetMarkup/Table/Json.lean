import SheetMarkup.Diagnostic.InputError
import SheetMarkup.Grid.Address
import SheetMarkup.Json.Parser
import SheetMarkup.Json.Readers
import SheetMarkup.Table.Basic
import SheetMarkup.Text.Blank

/-!
# Tables from JSON

There are two readers. The lenient one takes a table object or a bare array of rows; its cells may be
numbers, booleans and nulls, of repeated members the last counts, and a name of the wrong type is no
name. The strict one takes cells of text only, refuses a repeated member and a wrong type, passes
over members it does not know, and also takes the five fields as an array in their order.

* `TableFault`: what the lenient reader says of a document that is no table
* `Table.ofLenientJson`: the lenient reader
* `Table.ofStrictJson?`: the strict reader
-/

namespace SheetMarkup

/-- Why a readable document is not a table. Rows and columns are counted from 1. -/
inductive TableFault where
  | notTable
  | dataNotRows
  | rowNotCells (row : Nat)
  | nestedCell (column row : Nat)
  deriving DecidableEq, Repr

def TableFault.message : TableFault → String
  | .notTable => "expected a table object or an array of rows"
  | .dataNotRows => "table data must be an array of rows"
  | .rowNotCells row => "row " ++ toString row ++ " is not an array of cells"
  | .nestedCell column row =>
    "cell " ++ String.ofList (cellToken column row) ++ " holds a nested value"

/-! ## Visibility flags -/

/-- A flag: a boolean, a number that is not zero, or a text that says neither nothing nor no. -/
def flag? : Json → Option Bool
  | .bool value => some value
  | .string text =>
    let word := Text.trim text
    some !(word == "" || word == "0" || word == "false")
  | document => document.signed?.map (· != 0)

def flagLists? (rows columns : Option Json) : Option Visibility := do
  let rows ← rows.elim (some []) (Json.list? flag?)
  let columns ← columns.elim (some []) (Json.list? flag?)
  some { rows, columns }

/-- Visibility flags as an object, or as an array of the two lists. `member?` looks up a member of
an object, and fails if the object is refused. -/
def visibility? (member? : List (String × Json) → String → Option (Option Json)) :
    Json → Option Visibility
  | .object members => do flagLists? (← member? members "rows") (← member? members "columns")
  | .array [] => some {}
  | .array [rows] => flagLists? (some rows) none
  | .array [rows, columns] => flagLists? (some rows) (some columns)
  | _ => none

/-! ## The lenient reader -/

def cellsFrom (row : Nat) : (column : Nat) → List Json → Except TableFault (List String)
  | _, [] => .ok []
  | column, item :: items =>
    match item.cellText? with
    | none => .error (.nestedCell column row)
    | some text => (cellsFrom row (column + 1) items).map (text :: ·)

def rowsFrom : (row : Nat) → List Json → Except TableFault Grid
  | _, [] => .ok []
  | row, .array items :: rows => do
    let cells ← cellsFrom row 1 items
    let rest ← rowsFrom (row + 1) rows
    .ok (cells :: rest)
  | row, _ :: _ => .error (.rowNotCells row)

def gridOf : Json → Except TableFault Grid
  | .array rows => rowsFrom 1 rows
  | _ => .error .dataNotRows

/-- The id of a table object, as a cell would show it; one that is neither text nor number does not
count. -/
def lenientId (defaultId : String) : Option Json → String
  | some (.string text) => text
  | some (.integer n) => toString n
  | some (.float x) => Decimal.dataText x
  | _ => defaultId

/-- A text member; anything else is no text. -/
def textMember (members : List (String × Json)) (key : String) : String :=
  ((Json.lastMember? members key).bind Json.string?).getD ""

def Table.ofLenientDocument (defaultId : String) : Json → Except InputError Table
  | .array rows =>
    match gridOf (.array rows) with
    | .ok data => .ok { id := defaultId, data }
    | .error fault => .error (.invalid fault.message)
  | .object members =>
    match (Json.lastMember? members "data").elim (.ok []) gridOf with
    | .error fault => .error (.invalid fault.message)
    | .ok data =>
      let visibility : Option Visibility := match Json.lastMember? members "visibility" with
        | none => some {}
        | some flags => visibility? (fun members key => some (Json.lastMember? members key)) flags
      match visibility with
      | none => .error (.unreadable "the visibility flags have a wrong type")
      | some visibility =>
        .ok
          { id := lenientId defaultId (Json.lastMember? members "id")
            name := textMember members "name"
            description := textMember members "description"
            data, visibility }
  | _ => .error (.invalid TableFault.notTable.message)

/-- The lenient reader; `defaultId` is the id of a table that has none. -/
def Table.ofLenientJson (defaultId text : String) : Except InputError Table :=
  match Json.parse text with
  | some document =>
    if document.isReadable Json.maxNesting then Table.ofLenientDocument defaultId document
    else .error (.unreadable "the document has a part without a value")
  | none => .error (.unreadable "the text is not a document")

/-! ## The strict reader -/

/-- The member with a key, unless there are several. -/
def onlyMember? (members : List (String × Json)) (key : String) : Option (Option Json) :=
  match members.filter (·.1 == key) with
  | [] => some none
  | [member] => some (some member.2)
  | _ => none

def strictTable? (id name description data visibility : Option Json) : Option Table := do
  let id ← id.elim (some "") Json.idText?
  let name ← name.elim (some "") Json.string?
  let description ← description.elim (some "") Json.string?
  let data ← data.elim (some []) (Json.list? (Json.list? Json.string?))
  let visibility ← visibility.elim (some {}) (visibility? onlyMember?)
  some { id, name, description, data, visibility }

/-- A table from a document, which may have parts without a value where they are passed over. -/
def Table.ofStrictDocument? : Json → Option Table
  | .object members => do
    strictTable? (← onlyMember? members "id") (← onlyMember? members "name")
      (← onlyMember? members "description") (← onlyMember? members "data")
      (← onlyMember? members "visibility")
  | .array fields =>
    if fields.length ≤ 5 then
      strictTable? fields[0]? fields[1]? fields[2]? fields[3]? fields[4]?
    else none
  | _ => none

def Table.ofStrictJson? (text : String) : Option Table :=
  (Json.parse text).bind Table.ofStrictDocument?

end SheetMarkup
