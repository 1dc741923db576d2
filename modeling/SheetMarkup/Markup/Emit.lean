import SheetMarkup.Layout.Engine
import SheetMarkup.Table.Basic
import SheetMarkup.Text.Blank

/-!
# Emitter — a layout as markup

* `cellMarkup`, `rowMarkup`, `sectionMarkup`: the parts of a table
* `tableMarkup`: a table with its name and description
* `emptyTableComment`: what stands for a table without visible cells
-/

namespace SheetMarkup.Markup

/-- An attribute with a blank in front, unless its value is left out. -/
def attr (name : String) : Option String → String
  | some value => " " ++ name ++ "=\"" ++ value ++ "\""
  | none => ""

def unlessEmpty (text : String) : Option String :=
  if text = "" then none else some text

/-- A span that is left out when it is 1 or less. -/
def unlessSingle (span : Nat) : Option String :=
  if 1 < span then some (toString span) else none

def cellMarkup (cell : LayoutCell) : String :=
  let element := cell.tag.element
  "<" ++ element ++ attr "colspan" (unlessSingle cell.colspan)
    ++ attr "rowspan" (unlessSingle cell.rowspan)
    ++ attr "class" (unlessEmpty cell.cssClass) ++ attr "style" cell.style ++ ">"
    ++ cell.content ++ "</" ++ element ++ ">"

def rowMarkup (row : LayoutRow) : String :=
  "\t<tr" ++ attr "class" (unlessEmpty row.cssClass) ++ ">\n\t\t"
    ++ "\n\t\t".intercalate (row.cells.map cellMarkup) ++ "\n\t</tr>\n"

def sectionMarkup (element : String) (cssClass : Option String) (rows : List LayoutRow) : String :=
  "<" ++ element ++ attr "class" cssClass ++ ">\n" ++ String.join (rows.map rowMarkup)
    ++ "</" ++ element ++ ">\n"

def captionMarkup (caption : Caption) : String :=
  "<caption" ++ attr "class" (unlessEmpty caption.cssClass) ++ ">" ++ caption.text
    ++ "</caption>\n"

def columnMarkup (attributes : String) : String :=
  if attributes = "" then "\t<col />\n" else "\t<col " ++ attributes ++ " />\n"

def columnGroupMarkup (columns : List String) : String :=
  "<colgroup>\n" ++ String.join (columns.map columnMarkup) ++ "</colgroup>\n"

def heading (text tag cssClass : String) (showLineBreaks : Bool) : String :=
  if text = "" then ""
  else
    let tag := if tag = "" then "span" else tag
    "<" ++ tag ++ attr "class" (unlessEmpty cssClass) ++ ">" ++ safeText text showLineBreaks
      ++ "</" ++ tag ++ ">\n"

/-- The classes of a table, each once and none of them empty. -/
def tableClasses (id : String) (settings : RenderSettings) (hooks : RenderHooks) : List String :=
  let own := [classStart, classStart ++ "-id-" ++ id]
  ((hooks.tableClasses id (own ++ Text.words settings.extraClasses)).filter (· != "")).eraseDups

def openingTag (id : String) (settings : RenderSettings) (hooks : RenderHooks) : String :=
  "<table" ++ attr "id" (unlessEmpty settings.htmlId)
    ++ attr "class" (unlessEmpty (" ".intercalate (tableClasses id settings hooks)))
    ++ attr "summary" (unlessEmpty (hooks.summary id ""))
    ++ attr "cellspacing" settings.cellSpacing
    ++ attr "cellpadding" settings.cellPadding
    ++ attr "border" settings.border ++ ">\n"

/-- The class that a kind of heading has in every table, and the one it has in this table. -/
def headingClass (kind id : String) : String :=
  classStart ++ "-table-" ++ kind ++ " " ++ classStart ++ "-table-" ++ kind ++ "-id-" ++ id

def tableElement (id : String) (layout : TableLayout) (settings : RenderSettings)
    (hooks : RenderHooks) : String :=
  let hover := if settings.rowHover then some "row-hover" else none
  openingTag id settings hooks
    ++ layout.caption.elim "" captionMarkup
    ++ layout.columnGroup.elim "" columnGroupMarkup
    ++ layout.header.elim "" (fun row => sectionMarkup "thead" none [row])
    ++ layout.footer.elim "" (fun row => sectionMarkup "tfoot" none [row])
    ++ (if layout.body.isEmpty then "" else sectionMarkup "tbody" hover layout.body)
    ++ "</table>\n"

/-- The markup of a table, its name and description above or below it. -/
def tableMarkup (table : Table) (layout : TableLayout) (settings : RenderSettings)
    (hooks : RenderHooks) : String :=
  let id := table.id
  let showLineBreaks := hooks.showLineBreaks id true
  let name :=
    heading table.name (hooks.nameTag id "h2") (hooks.nameClass id (headingClass "name" id))
      showLineBreaks
  let description :=
    heading table.description (hooks.descriptionTag id "span")
      (hooks.descriptionClass id (headingClass "description" id)) showLineBreaks
  let headings (side : Side) :=
    (if settings.printName = some side then name else "")
      ++ (if settings.printDescription = some side then description else "")
  headings .above ++ tableElement id layout settings hooks ++ headings .below

def emptyTableComment (id : String) : String :=
  "<!-- " ++ classStart ++ ": the table with ID " ++ id ++ " is empty! -->\n"

end SheetMarkup.Markup
