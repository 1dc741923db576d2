import SheetMarkup.CommandLine.Run

/-!
# Main — the command line on real files

The standard input and the files that a job needs are read first, the report is made of them, and
the result is written last.
-/

open SheetMarkup.CommandLine

def faultOf : IO.Error → FileFault
  | .noFileOrDirectory .. => .notFound
  | .inappropriateType _ 20 _ => .notDirectory
  | .inappropriateType _ 21 _ => .isDirectory
  | .noSuchThing _ 6 _ => .noDevice
  | .resourceExhausted _ 28 _ => .noSpace
  | .invalidArgument _ 36 _ => .nameTooLong
  | error => .other (toString error)

def readPath (path : String) : IO (String × Except FileFault String) := do
  try
    return (path, .ok (← IO.FS.readFile path))
  catch error =>
    return (path, .error (faultOf error))

def writePath (path text : String) : IO (Except FileFault Unit) := do
  try
    IO.FS.writeFile path text
    return .ok ()
  catch error =>
    return .error (faultOf error)

partial def readAll (stream : IO.FS.Stream) (text : String) : IO String := do
  let next ← stream.getLine
  if next.isEmpty then return text else readAll stream (text ++ next)

def main (arguments : List String) : IO UInt32 := do
  let job? := match readInvocation arguments with
    | .ok i => i.command.job?
    | .error _ => none
  let stdin ←
    if job?.any (·.input.isNone) then readAll (← IO.getStdin) "" else pure ""
  let sources ← (job?.elim [] Job.sources).mapM readPath
  let read : Reader := fun stdin path =>
    ((sources.lookup path).getD (.error .notFound)).map fun text => (text, stdin)
  match reportOf read stdin arguments with
  | .failure exit message => do
    IO.eprint message
    return UInt32.ofNat exit
  | .show message text => do
    IO.eprint message
    IO.print text
    return 0
  | .store message path text said => do
    IO.eprint message
    match ← writePath path text with
    | .ok () => do
      IO.eprint said
      return 0
    | .error fault => do
      IO.eprint (errorLine (.io fault.message))
      return 1
