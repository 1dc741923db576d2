import SheetMarkup.CommandLine.Arguments
import SheetMarkup.Grid.Address
import SheetMarkup.Options.Heading

/-!
# Commands — what a command line asks for

* `Command`: render a table, evaluate one, or show what there is
* `Invocation`: a command with the options that hold for all of them
* `readInvocation`: the invocation that arguments stand for
-/

namespace SheetMarkup.CommandLine

inductive InputFormat where
  /-- By the ending of the file name; anything but the one for comma-separated values is JSON. -/
  | auto
  | json
  | csv
  deriving DecidableEq, Repr

/-- Options that take the place of those of an options file. Index lists are read when the size of
the table is known. -/
structure Overrides where
  rowOffset : Option Nat := none
  rowCount : Option Nat := none
  hideRows : Option String := none
  showRows : Option String := none
  hideColumns : Option String := none
  showColumns : Option String := none
  tableHead : Option Bool := none
  tableFoot : Option Bool := none
  firstColumnHead : Bool := false
  alternatingRowColors : Option Bool := none
  rowHover : Option Bool := none
  printName : Option HeadingChoice := none
  printDescription : Option HeadingChoice := none
  htmlId : Option String := none
  extraClasses : Option String := none
  columnWidths : Option String := none
  deriving DecidableEq, Repr

/-- Where a table comes from, how it is shown and where the result goes: to the standard output
unless there is a path. -/
structure Job where
  input : Option String := none
  format : InputFormat := .auto
  options : Option String := none
  id : String := "1"
  overrides : Overrides := {}
  output : Option String := none
  deriving DecidableEq, Repr

inductive Command where
  | render (job : Job)
  | eval (job : Job)
  | info
  deriving DecidableEq, Repr

def Command.job? : Command → Option Job
  | .render job | .eval job => some job
  | .info => none

def Job.sources (job : Job) : List String :=
  job.input.toList ++ job.options.toList

structure Invocation where
  command : Command
  strict : Bool := false
  quiet : Bool := false
  noColor : Bool := false
  deriving DecidableEq, Repr

/-! ## Values -/

def readFormat : String → Option InputFormat
  | "auto" => some .auto
  | "json" => some .json
  | "csv" => some .csv
  | _ => none

def readBool : String → Option Bool
  | "true" => some true
  | "false" => some false
  | _ => none

def readNumber (text : String) : Option Nat :=
  readIndex text.toList

def reads {α : Type} (read : String → Option α) (text : String) : Bool :=
  (read text).isSome

/-! ## Options -/

def globalSpecs : List OptionSpec :=
  [{ long := "strict", kind := .switch },
   { long := "quiet", short := some 'q', kind := .switch },
   { long := "verbose", short := some 'v', kind := .counter },
   { long := "no-color", kind := .switch }]

def jobSpecs : List OptionSpec :=
  [{ long := "format", short := some 'f', accepts := reads readFormat },
   { long := "options" },
   { long := "id" },
   { long := "row-offset", accepts := reads readNumber },
   { long := "row-count", accepts := reads readNumber },
   { long := "hide-rows" },
   { long := "show-rows" },
   { long := "hide-columns" },
   { long := "show-columns" },
   { long := "table-head", accepts := reads readBool },
   { long := "table-foot", accepts := reads readBool },
   { long := "first-column-th", kind := .switch },
   { long := "alternating-row-colors", accepts := reads readBool },
   { long := "row-hover", accepts := reads readBool },
   { long := "print-name", accepts := reads HeadingChoice.ofText? },
   { long := "print-description", accepts := reads HeadingChoice.ofText? },
   { long := "html-id" },
   { long := "extra-css-classes" },
   { long := "column-widths" },
   { long := "output", short := some 'o' }]

def topLevel : Level where
  specs := globalSpecs
  hasVersion := true

def jobLevel : Level where
  specs := globalSpecs ++ jobSpecs
  operands := some 1

def plainLevel : Level where
  specs := globalSpecs
  operands := some 0

/-! ## Invocations -/

def Overrides.ofScan (s : Scan) : Overrides :=
  let number (long : String) := (s.value? long).bind readNumber
  let switch (long : String) := (s.value? long).bind readBool
  let heading (long : String) := (s.value? long).bind HeadingChoice.ofText?
  { rowOffset := number "row-offset"
    rowCount := number "row-count"
    hideRows := s.value? "hide-rows"
    showRows := s.value? "show-rows"
    hideColumns := s.value? "hide-columns"
    showColumns := s.value? "show-columns"
    tableHead := switch "table-head"
    tableFoot := switch "table-foot"
    firstColumnHead := s.has "first-column-th"
    alternatingRowColors := switch "alternating-row-colors"
    rowHover := switch "row-hover"
    printName := heading "print-name"
    printDescription := heading "print-description"
    htmlId := s.value? "html-id"
    extraClasses := s.value? "extra-css-classes"
    columnWidths := s.value? "column-widths" }

def Job.ofScan (s : Scan) : Job where
  input := s.operands.head?
  format := ((s.value? "format").bind readFormat).getD .auto
  options := s.value? "options"
  id := (s.value? "id").getD "1"
  overrides := .ofScan s
  output := s.value? "output"

def commandNames : List String :=
  ["render", "eval", "info", "help"]

/-- What asking for help with arguments comes to. No command has commands of its own. -/
def readHelp : List String → Halt
  | [] => .helpAsked
  | [name] => if commandNames.contains name then .helpAsked else .usage
  | _ => .usage

def readCommand (name : String) (arguments : List String) : Except Halt (Command × Scan) :=
  match name with
  | "render" => (scan jobLevel arguments {}).map fun s => (.render (.ofScan s), s)
  | "eval" => (scan jobLevel arguments {}).map fun s => (.eval (.ofScan s), s)
  | "info" => (scan plainLevel arguments {}).map fun s => (.info, s)
  | "help" => .error (readHelp arguments)
  | _ => .error .usage

/-- The invocation that arguments stand for. Options for all commands may stand before or behind the
name of the command. -/
def readInvocation (arguments : List String) : Except Halt Invocation := do
  let top ← scan topLevel arguments {}
  match top.operands with
  | name :: _ => do
    let (command, s) ← readCommand name top.rest
    let either (long : String) := top.has long || s.has long
    return { command, strict := either "strict", quiet := either "quiet"
             noColor := either "no-color" }
  | [] => .error .usage

end SheetMarkup.CommandLine
