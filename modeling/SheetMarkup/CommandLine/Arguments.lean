/-!
# Arguments — options and operands of a command line

An option has a long name and may have a short one. A value stands behind it as the next argument or
is attached to it; short options may share one dash. No option is given twice, except those that are
counted. Arguments are taken one after another, and the first that is wrong, or asks for help, decides
what becomes of the command line.

* `OptionSpec`: the options of one level of a command line
* `Level`: the options and operands of one level
* `scan`: the arguments of one level, sorted into options and operands
-/

namespace SheetMarkup.CommandLine

inductive OptionKind where
  | switch
  | counter
  | valued
  deriving DecidableEq, Repr

structure OptionSpec where
  long : String
  short : Option Char := none
  kind : OptionKind := .valued
  /-- Whether a value can be read. -/
  accepts : String → Bool := fun _ => true

inductive Halt where
  /-- It is not well formed. -/
  | usage
  | helpAsked
  | versionAsked
  deriving DecidableEq, Repr

/-- Options by long name with their values, operands, and what stands behind the operand that ends
the level. Switches have no value. -/
structure Scan where
  given : List (String × String) := []
  operands : List String := []
  rest : List String := []
  deriving DecidableEq, Repr

namespace Scan

def values (s : Scan) (long : String) : List String :=
  (s.given.filter (·.1 == long)).map Prod.snd

def has (s : Scan) (long : String) : Bool :=
  s.given.any (·.1 == long)

def value? (s : Scan) (long : String) : Option String :=
  s.given.lookup long

/-- One more option, which must not repeat and must have a value that can be read. -/
def add (s : Scan) (spec : OptionSpec) (value : String) : Except Halt Scan :=
  if spec.kind != .counter && s.has spec.long then .error .usage
  else if !spec.accepts value then .error .usage
  else .ok { s with given := s.given ++ [(spec.long, value)] }

end Scan

structure Level where
  specs : List OptionSpec
  hasVersion : Bool := false
  /-- How many operands the level takes; if it says nothing, the first operand ends the level. -/
  operands : Option Nat := none

/-- Short options that share a dash. The last one may be left without its value. -/
def scanShort (level : Level) : List Char → Scan → Except Halt (Scan × Option OptionSpec)
  | [], s => .ok (s, none)
  | c :: cs, s =>
    if c = 'h' then .error .helpAsked
    else if c = 'V' && level.hasVersion then .error .versionAsked
    else
      match level.specs.find? (·.short == some c) with
      | none => .error .usage
      | some spec =>
        if spec.kind = .valued then
          match cs with
          | [] => .ok (s, some spec)
          | '=' :: value => (s.add spec (String.ofList value)).map (·, none)
          | value => (s.add spec (String.ofList value)).map (·, none)
        else (s.add spec "").bind (scanShort level cs)

/-- A long option without its dashes. It may be left without its value. -/
def scanLong (level : Level) (text : List Char) (s : Scan) :
    Except Halt (Scan × Option OptionSpec) :=
  let name := String.ofList (text.takeWhile (· != '='))
  let attached? := match text.dropWhile (· != '=') with
    | _ :: value => some (String.ofList value)
    | [] => none
  if name = "help" then if attached?.isNone then .error .helpAsked else .error .usage
  else if name = "version" && level.hasVersion then
    if attached?.isNone then .error .versionAsked else .error .usage
  else
    match level.specs.find? (·.long == name) with
    | none => .error .usage
    | some spec =>
      match decide (spec.kind = .valued), attached? with
      | true, some value => (s.add spec value).map (·, none)
      | true, none => .ok (s, some spec)
      | false, none => (s.add spec "").map (·, none)
      | false, some _ => .error .usage

/-- Whether an argument can be the value of the option before it. A dash alone can. -/
def isValue (argument : String) : Bool :=
  argument.toList.head? != some '-' || argument = "-"

def scan (level : Level) : List String → Scan → Except Halt Scan
  | [], s => .ok s
  | argument :: arguments, s =>
    let scanned := match argument.toList with
      | '-' :: '-' :: c :: cs => some (scanLong level (c :: cs) s)
      | ['-', '-'] | ['-'] => none
      | '-' :: cs => some (scanShort level cs s)
      | _ => none
    match scanned with
    | some (.error halt) => .error halt
    | some (.ok (s, none)) => scan level arguments s
    | some (.ok (s, some spec)) =>
      match arguments with
      | [] => .error .usage
      | value :: arguments =>
        if isValue value then (s.add spec value).bind (scan level arguments) else .error .usage
    | none =>
      let most := level.operands.getD 0
      if argument = "--" then
        let operands := s.operands ++ arguments
        if operands.length ≤ most then .ok { s with operands } else .error .usage
      else if level.operands.isNone then
        .ok { s with operands := [argument], rest := arguments }
      else if s.operands.length < most then
        scan level arguments { s with operands := s.operands ++ [argument] }
      else .error .usage

end SheetMarkup.CommandLine
