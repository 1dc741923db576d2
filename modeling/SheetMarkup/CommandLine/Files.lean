import SheetMarkup.Text.Replace

/-!
# Files — a tree of texts, and where paths lead in it

A path is followed name by name, from the root of the tree or from the working directory. Everything
before its last name has to be a directory. The last name of a path that is written to may be new,
but then nothing may stand behind it.

* `Location`, `Files`: places in the tree, and the texts at them
* `Device`: places that hold no text of their own
* `Files.target`: where a path leads
* `Files.read`, `Files.write`: the text at a path, read and replaced
-/

namespace SheetMarkup.CommandLine

inductive FileFault where
  | notFound
  | notDirectory
  | isDirectory
  | noDevice
  | noSpace
  | nameTooLong
  /-- Any other fault, in the words of the system. -/
  | other (message : String)
  deriving DecidableEq, Repr

def FileFault.message : FileFault → String
  | .notFound => "No such file or directory (os error 2)"
  | .noDevice => "No such device or address (os error 6)"
  | .notDirectory => "Not a directory (os error 20)"
  | .isDirectory => "Is a directory (os error 21)"
  | .noSpace => "No space left on device (os error 28)"
  | .nameTooLong => "File name too long (os error 36)"
  | .other message => message

/-! ## The tree -/

abbrev Location := List String

abbrev Files := List (Location × String)

def workingDirectory : Location := ["tmp", "work"]

def rootDirectories : List String :=
  ["bin", "boot", "dev", "etc", "home", "lib", "media", "mnt", "opt", "proc", "root", "run", "sbin",
   "srv", "sys", "tmp", "usr", "var"]

def standardDirectories : List Location :=
  [[], workingDirectory, ["dev", "fd"]] ++ rootDirectories.map ([·])

inductive Device where
  /-- It is always empty, and what is written to it is lost. -/
  | null
  /-- It never ends, and what is written to it is lost. -/
  | endless
  /-- It never ends, and nothing fits on it. -/
  | full
  /-- The terminal, where there is none. -/
  | terminal
  /-- The standard streams. -/
  | input
  | output
  | errors
  deriving DecidableEq, Repr

def device? : Location → Option Device
  | ["dev", "null"] => some .null
  | ["dev", "zero"] | ["dev", "random"] | ["dev", "urandom"] => some .endless
  | ["dev", "full"] => some .full
  | ["dev", "tty"] => some .terminal
  | ["dev", "stdin"] | ["dev", "fd", "0"] => some .input
  | ["dev", "stdout"] | ["dev", "fd", "1"] => some .output
  | ["dev", "stderr"] | ["dev", "fd", "2"] => some .errors
  | _ => none

inductive Entry where
  | directory
  | device (device : Device)
  | text (text : String)
  deriving DecidableEq, Repr

namespace Files

/-- Whether a place is a directory: it is always there, or a text lies below it. -/
def isDirectory (files : Files) (place : Location) : Bool :=
  standardDirectories.contains place ||
    files.any fun file => place.isPrefixOf file.1 && place.length < file.1.length

def entry? (files : Files) (place : Location) : Option Entry :=
  if files.isDirectory place then some .directory
  else
    match device? place with
    | some device => some (.device device)
    | none => (files.lookup place).map .text

/-! ## Paths -/

def longestName : Nat := 255

def longestPath : Nat := 4095

def isDots (name : String) : Bool :=
  name == "." || name == ".."

/-- The directory that names lead to from another one. The root is above itself. -/
def follow (files : Files) : (directory : Location) → List String → Except FileFault Location
  | directory, [] => .ok directory
  | directory, name :: names =>
    if name = "." then files.follow directory names
    else if name = ".." then files.follow directory.dropLast names
    else if longestName < name.utf8ByteSize then .error .nameTooLong
    else
      match files.entry? (directory ++ [name]) with
      | some .directory => files.follow (directory ++ [name]) names
      | some _ => .error .notDirectory
      | none => .error .notFound

inductive Target where
  /-- A directory that the path has gone through. -/
  | directory
  /-- A name in a directory; a slash behind it says that it is a directory too. -/
  | named (directory : Location) (name : String) (slash : Bool)
  deriving DecidableEq, Repr

def target (files : Files) (path : String) : Except FileFault Target :=
  if longestPath < path.utf8ByteSize then .error .nameTooLong
  else if path = "" then .error .notFound
  else
    let parts := (Text.splitOn '/' path.toList).map String.ofList
    let names := parts.filter (· != "")
    let start := if parts.head? = some "" then [] else workingDirectory
    match names.getLast? with
    | none => .ok .directory
    | some name => do
      let directory ← files.follow start names.dropLast
      if isDots name then .ok .directory
      else .ok (.named directory name (parts.getLast? == some ""))

/-! ## Texts -/

/-- The text of a device, and what is left of the standard input. The standard input gives all it
has; devices that never end have no text. -/
def deviceText (stdin : String) : Device → Except FileFault (String × String)
  | .null => .ok ("", stdin)
  | .input => .ok (stdin, "")
  | .terminal => .error .noDevice
  | .endless | .full | .output | .errors => .error (.other "the device never ends")

def read (files : Files) (stdin path : String) : Except FileFault (String × String) := do
  match ← files.target path with
  | .directory => .error .isDirectory
  | .named directory name slash =>
    if longestName < name.utf8ByteSize then .error .nameTooLong
    else
      match files.entry? (directory ++ [name]) with
      | none => .error .notFound
      | some .directory => .error .isDirectory
      | some (.device device) =>
        if slash then .error .notDirectory else deviceText stdin device
      | some (.text text) => if slash then .error .notDirectory else .ok (text, stdin)

def put (files : Files) (place : Location) (text : String) : Files :=
  if (files.lookup place).isSome then
    files.map fun file => if file.1 == place then (place, text) else file
  else files ++ [(place, text)]

inductive Written where
  | saved (files : Files)
  | lost
  /-- It went to the standard output, or to the standard error. -/
  | printed
  | reported

def writeDevice (text : String) : Device → Except FileFault Written
  | .null | .endless | .input => .ok .lost
  | .terminal => .error .noDevice
  | .full => if text = "" then .ok .lost else .error .noSpace
  | .output => .ok .printed
  | .errors => .ok .reported

/-- A text written to a path, all of it or nothing. -/
def write (files : Files) (path text : String) : Except FileFault Written := do
  match ← files.target path with
  | .directory | .named _ _ true => .error .isDirectory
  | .named directory name false =>
    let place := directory ++ [name]
    if longestName < name.utf8ByteSize then .error .nameTooLong
    else
      match files.entry? place with
      | some .directory => .error .isDirectory
      | some (.device device) => writeDevice text device
      | some (.text _) | none => .ok (.saved (files.put place text))

end Files
end SheetMarkup.CommandLine
