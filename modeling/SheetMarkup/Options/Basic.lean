/-!
# Options of a render

A caller may leave many options open. What is open is decided by the defaults of the site, at the
start of a render.

* `Preference`, `HeadingChoice`: options that may be left open
* `RenderOptions`: what a caller asks for
* `SiteDefaults`: what holds where the caller asks for nothing
* `RenderSettings`, `RenderOptions.resolve`: the options of one render, all decided
-/

namespace SheetMarkup

inductive Preference where
  | unset
  | on
  | off
  deriving DecidableEq, Repr, Inhabited

namespace Preference

def ofBool (value : Bool) : Preference :=
  if value then .on else .off

def isSet (p : Preference) : Bool :=
  p != .unset

def resolve (p : Preference) (default : Bool) : Bool :=
  match p with
  | .unset => default
  | .on => true
  | .off => false

end Preference

inductive Side where
  | above
  | below
  deriving DecidableEq, Repr

/-- Where a name or description should be printed, if at all; it may be left open. -/
inductive HeadingChoice where
  | unset
  | off
  | above
  | below
  deriving DecidableEq, Repr, Inhabited

namespace HeadingChoice

def side? : HeadingChoice → Option Side
  | .above => some .above
  | .below => some .below
  | .off | .unset => none

/-- The choice made, or else the default; a default left open prints nothing. -/
def resolve (choice default : HeadingChoice) : Option Side :=
  match choice with
  | .unset => default.side?
  | choice => choice.side?

end HeadingChoice

/-- Options of sorting and filtering in a browser. They are carried along and change nothing in the
markup. -/
structure BrowserOptions where
  sort : Preference := .unset
  filter : Preference := .unset
  paginate : Preference := .unset
  lengthChange : Preference := .unset
  paginateEntries : Option UInt32 := none
  info : Preference := .unset
  scrollX : Preference := .unset
  customCommands : Option String := none
  deriving DecidableEq, Repr, Inhabited

/-- What a caller asks of a render. Rows and columns are counted from 1 in the whole table. -/
structure RenderOptions where
  /-- Takes the place of the id of the table. -/
  id : Option String := none
  columnWidths : List String := []
  alternatingRowColors : Preference := .unset
  rowHover : Preference := .unset
  tableHead : Preference := .unset
  firstColumnHead : Bool := false
  tableFoot : Preference := .unset
  printName : HeadingChoice := .unset
  printDescription : HeadingChoice := .unset
  cacheOutput : Preference := .unset
  extraClasses : String := ""
  useBrowser : Preference := .unset
  browser : BrowserOptions := {}
  rowOffset : UInt64 := 1
  rowCount : Option UInt64 := none
  showRows : List UInt64 := []
  showColumns : List UInt64 := []
  hideRows : List UInt64 := []
  hideColumns : List UInt64 := []
  cellSpacing : Option String := none
  cellPadding : Option String := none
  border : Option String := none
  htmlId : String := "test"
  deriving DecidableEq, Repr, Inhabited

/-- Options for a bare table: no head or foot, no stripes, no hover class, no headings. -/
def RenderOptions.plain : RenderOptions where
  tableHead := .off
  tableFoot := .off
  alternatingRowColors := .off
  rowHover := .off
  printName := .off
  printDescription := .off

structure SiteDefaults where
  tableHead : Bool := true
  tableFoot : Bool := false
  alternatingRowColors : Bool := true
  rowHover : Bool := true
  printName : HeadingChoice := .off
  printDescription : HeadingChoice := .off
  deriving DecidableEq, Repr, Inhabited

structure RenderSettings where
  tableHead : Bool
  tableFoot : Bool
  firstColumnHead : Bool
  alternatingRowColors : Bool
  rowHover : Bool
  printName : Option Side
  printDescription : Option Side
  columnWidths : List String
  extraClasses : String
  htmlId : String
  rowOffset : UInt64
  rowCount : Option UInt64
  showRows : List UInt64
  showColumns : List UInt64
  hideRows : List UInt64
  hideColumns : List UInt64
  cellSpacing : Option String
  cellPadding : Option String
  border : Option String
  deriving DecidableEq, Repr

/-- The options of a render on a site. An offset of 0 means the first row. -/
def RenderOptions.resolve (o : RenderOptions) (site : SiteDefaults) : RenderSettings where
  tableHead := o.tableHead.resolve site.tableHead
  tableFoot := o.tableFoot.resolve site.tableFoot
  firstColumnHead := o.firstColumnHead
  alternatingRowColors := o.alternatingRowColors.resolve site.alternatingRowColors
  rowHover := o.rowHover.resolve site.rowHover
  printName := o.printName.resolve site.printName
  printDescription := o.printDescription.resolve site.printDescription
  columnWidths := o.columnWidths
  extraClasses := o.extraClasses
  htmlId := o.htmlId
  rowOffset := max o.rowOffset 1
  rowCount := o.rowCount
  showRows := o.showRows
  showColumns := o.showColumns
  hideRows := o.hideRows
  hideColumns := o.hideColumns
  cellSpacing := o.cellSpacing
  cellPadding := o.cellPadding
  border := o.border

def RenderSettings.default : RenderSettings :=
  RenderOptions.resolve {} {}

end SheetMarkup
