import SheetMarkup.CommandLine.Command
import SheetMarkup.CommandLine.Files
import SheetMarkup.Csv.Reader
import SheetMarkup.Csv.Writer
import SheetMarkup.Options.IndexList
import SheetMarkup.Options.Toml
import SheetMarkup.Render.Renderer
import SheetMarkup.Table.Json

/-!
# Runs — what a command does

A run reads its input first, then its options, and writes its result last, so that a run that fails
leaves nothing behind but a message.

* `readSource`: the table and the options of a job
* `Report`, `report`: the result of an invocation, before it is written
* `run`: the outcome of a whole command line on a tree of files
-/

namespace SheetMarkup.CommandLine

/-! ## Input -/

def listed (list : Option String) (count : Nat) (default : List UInt64) :
    Except InputError (List UInt64) :=
  match list with
  | none => .ok default
  | some text => (readIndexList text count).map (·.map UInt64.ofNat)

def switched (choice : Option Bool) (default : Preference) : Preference :=
  choice.elim default Preference.ofBool

/-- The options with overrides in place; lists are read for the size of the table. -/
def Overrides.apply (o : Overrides) (table : Table) (options : RenderOptions) :
    Except InputError RenderOptions := do
  if o.rowOffset = some 0 then throw (.invalid "--row-offset is 1-based")
  let hideRows ← listed o.hideRows table.data.length options.hideRows
  let showRows ← listed o.showRows table.data.length options.showRows
  let hideColumns ← listed o.hideColumns table.data.width options.hideColumns
  let showColumns ← listed o.showColumns table.data.width options.showColumns
  let widths (text : String) :=
    (Text.splitOn ',' text.toList).map fun width => String.ofList (Text.trimBlanks width)
  return { options with
    rowOffset := o.rowOffset.elim options.rowOffset UInt64.ofNat
    rowCount := o.rowCount.elim options.rowCount fun count => some (UInt64.ofNat count)
    hideRows, showRows, hideColumns, showColumns
    tableHead := switched o.tableHead options.tableHead
    tableFoot := switched o.tableFoot options.tableFoot
    firstColumnHead := o.firstColumnHead || options.firstColumnHead
    alternatingRowColors := switched o.alternatingRowColors options.alternatingRowColors
    rowHover := switched o.rowHover options.rowHover
    printName := o.printName.getD options.printName
    printDescription := o.printDescription.getD options.printDescription
    htmlId := o.htmlId.getD options.htmlId
    extraClasses := o.extraClasses.getD options.extraClasses
    columnWidths := o.columnWidths.elim options.columnWidths widths }

def Job.isCsv (job : Job) : Bool :=
  match job.format with
  | .csv => true
  | .json => false
  | .auto =>
    match job.input with
    | some path => ".csv".toList.reverse.isPrefixOf (Text.lowercase path).toList.reverse
    | none => false

/-- What reads the text at a path, and gives what is left of the standard input behind it. -/
abbrev Reader := (stdin path : String) → Except FileFault (String × String)

def readFile (read : Reader) (stdin path : String) : Except InputError (String × String) :=
  match read stdin path with
  | .ok result => .ok result
  | .error fault => .error (.io fault.message)

def readSource (read : Reader) (stdin : String) (job : Job) :
    Except InputError (Table × RenderOptions) := do
  let (text, left) ← match job.input with
    | some path => readFile read stdin path
    | none => .ok (stdin, "")
  let table ←
    if job.isCsv then .ok { id := job.id, data := Csv.parse text }
    else Table.ofLenientJson job.id text
  let options ← match job.options with
    | some path => do RenderOptions.ofToml (← readFile read left path).1
    | none => .ok {}
  return (table, ← job.overrides.apply table options)

/-! ## Messages -/

def programName : String := "gridmark"

def version : String := "0.1.0"

def line (text : String) : String :=
  text ++ "\n"

def errorLine (error : InputError) : String :=
  line ("Error: " ++ error.message)

/-- A list cut into parts of a length, with `fuel` at least its own length. -/
def chunks {α : Type} (size : Nat) : (fuel : Nat) → List α → List (List α)
  | 0, _ => []
  | fuel + 1, xs => if xs.isEmpty then [] else xs.take size :: chunks size fuel (xs.drop size)

def infoText : String :=
  let triggers : SpanTriggers := {}
  let names := SheetFunction.table.map Prod.fst
  line (programName ++ " v" ++ version) ++ line ""
    ++ line "Span triggers:"
    ++ line ("  rowspan  " ++ triggers.rowspan)
    ++ line ("  colspan  " ++ triggers.colspan)
    ++ line ("  span     " ++ triggers.span) ++ line ""
    ++ line "Formula functions:"
    ++ String.join ((chunks 8 names.length names).map fun part =>
        line ("  " ++ " ".intercalate part))
    ++ line "" ++ line "Constants: pi e"

def usageText : String :=
  line ("Usage: " ++ programName ++ " [OPTIONS] <render|eval|info>")

def warningLine (mark reset : String) (w : Warning) : String :=
  let place := match w.location? with
    | some location => location ++ ": "
    | none => ""
  line ("  " ++ mark ++ "[" ++ w.kind.text ++ "]" ++ reset ++ " " ++ place ++ w.message)

def warningListing (color : Bool) (warnings : List Warning) : String :=
  let (mark, reset) := if color then ("\x1b[33m", "\x1b[0m") else ("", "")
  line "" ++ line (mark ++ "Render Warnings (" ++ toString warnings.length ++ "):" ++ reset)
    ++ line "" ++ String.join (warnings.map (warningLine mark reset)) ++ line ""

def writtenLine (path : String) (warnings : Nat) : String :=
  if warnings = 0 then line ("✓ Output written to: " ++ path)
  else
    line ("⚠ Output written to: " ++ path ++ " (" ++ toString warnings ++ " warning(s))")

/-! ## Reports -/

/-- What a run has to say: a message on the way, and then a failure, a text for the standard output,
or a text for a file and what is said when it is written. -/
inductive Report where
  | failure (exit : Nat) (message : String)
  | show (message text : String)
  | store (message path text said : String)
  deriving DecidableEq, Repr

def delivered (job : Job) (message text : String) (warnings : Nat) : Report :=
  match job.output with
  | some path => .store message path text (writtenLine path warnings)
  | none => .show message text

def renderReport (i : Invocation) (job : Job) (table : Table) (options : RenderOptions) : Report :=
  let rendered := Renderer.render { table, options }
  let warnings := rendered.warnings
  let listing :=
    if !i.quiet && !warnings.isEmpty then warningListing (!i.noColor) warnings else ""
  if i.strict && !warnings.isEmpty then
    .failure 1
      (listing ++ line ("Error: " ++ toString warnings.length ++ " render warning(s) in strict mode"))
  else delivered job listing rendered.markup warnings.length

def evalReport (job : Job) (table : Table) (options : RenderOptions) : Report :=
  delivered job "" (Csv.write (Renderer.data { table, options })) 0

def report (read : Reader) (stdin : String) (i : Invocation) : Report :=
  let withSource (job : Job) (use : Table → RenderOptions → Report) : Report :=
    match readSource read stdin job with
    | .ok (table, options) => use table options
    | .error error => .failure 1 (errorLine error)
  match i.command with
  | .render job => withSource job (renderReport i job)
  | .eval job => withSource job (evalReport job)
  | .info => .show "" infoText

def reportOf (read : Reader) (stdin : String) (arguments : List String) : Report :=
  match readInvocation arguments with
  | .ok i => report read stdin i
  | .error .versionAsked => .show "" (line (programName ++ " " ++ version))
  | .error .helpAsked => .show "" usageText
  | .error .usage => .failure 2 usageText

/-! ## Outcomes -/

structure Outcome where
  exit : Nat
  stdout : String
  stderr : String
  deriving DecidableEq, Repr

def Report.carryOut (files : Files) : Report → Outcome × Files
  | .failure exit message => (⟨exit, "", message⟩, files)
  | .show message text => (⟨0, text, message⟩, files)
  | .store message path text said =>
    match files.write path text with
    | .error fault => (⟨1, "", message ++ errorLine (.io fault.message)⟩, files)
    | .ok (.saved files) => (⟨0, "", message ++ said⟩, files)
    | .ok .lost => (⟨0, "", message ++ said⟩, files)
    | .ok .printed => (⟨0, text, message ++ said⟩, files)
    | .ok .reported => (⟨0, "", message ++ text ++ said⟩, files)

/-- The outcome of a command line on a tree of files, and the files as it leaves them. -/
def run (arguments : List String) (stdin : String) (files : Files) : Outcome × Files :=
  (reportOf files.read stdin arguments).carryOut files

end SheetMarkup.CommandLine
