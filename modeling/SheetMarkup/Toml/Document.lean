import SheetMarkup.Toml.Scalar
import SheetMarkup.Toml.Text

/-!
# TOML documents

A document is read line by line into a tree of tables. A table comes from a header, from a longer
header that implies it, or from a dotted key, and each kind may be extended in its own way only: no
key and no table is defined twice.

* `Entry`: what a key of a document holds
* `addKey`, `openTable`, `openItem`: a key with its value, a table header, an array header
* `readValue`: a value at the start of a text
* `Toml.parse`: the members of a document, as JSON
-/

namespace SheetMarkup.Toml

/-! ## Tables -/

/-- Where a table comes from. -/
inductive Origin where
  | header
  | implied
  | dotted
  deriving DecidableEq, Repr

inductive Entry where
  | value (document : Json)
  | table (origin : Origin) (members : List (String × Entry))
  | tables (items : List (List (String × Entry)))
  deriving Inhabited

abbrev Members := List (String × Entry)

def Members.replace (members : Members) (key : String) (entry : Entry) : Members :=
  members.map fun member => if member.1 == key then (key, entry) else member

/-- A change of the table at the end of a path of headers; tables on the way are implied, and of an
array of tables the last counts. -/
def updateAt (change : Members → Option Members) : List String → Members → Option Members
  | [], members => change members
  | key :: path, members =>
    match members.lookup key with
    | none =>
      (updateAt change path []).map fun inner => members ++ [(key, .table .implied inner)]
    | some (.table origin inner) =>
      (updateAt change path inner).map fun inner => members.replace key (.table origin inner)
    | some (.tables items) => do
      let inner ← updateAt change path (← items.getLast?)
      some (members.replace key (.tables (items.dropLast ++ [inner])))
    | some (.value _) => none

/-- A key with its value behind a path of dotted keys. Only tables that come from dotted keys can be
extended by them. -/
def addKey (key : String) (value : Json) : List String → Members → Option Members
  | [], members =>
    if (members.lookup key).isNone then some (members ++ [(key, .value value)]) else none
  | part :: path, members =>
    match members.lookup part with
    | none => (addKey key value path []).map fun inner => members ++ [(part, .table .dotted inner)]
    | some (.table origin inner) =>
      if origin = .header || (path.isEmpty && origin ≠ .dotted) then none
      else (addKey key value path inner).map fun inner => members.replace part (.table origin inner)
    | some (.tables items) =>
      if path.isEmpty then none
      else do
        let inner ← addKey key value path (← items.getLast?)
        some (members.replace part (.tables (items.dropLast ++ [inner])))
    | some (.value _) => none

/-- A table header: the table is new, or only implied so far. -/
def openTable (key : String) (members : Members) : Option Members :=
  match members.lookup key with
  | none => some (members ++ [(key, .table .header [])])
  | some (.table .implied inner) => some (members.replace key (.table .header inner))
  | some _ => none

def openItem (key : String) (members : Members) : Option Members :=
  match members.lookup key with
  | none => some (members ++ [(key, .tables [[]])])
  | some (.tables items) => some (members.replace key (.tables (items ++ [[]])))
  | some _ => none

mutual

def Entry.toJson : Entry → Json
  | .value document => document
  | .table _ members => .object (membersJson members)
  | .tables items => .array (itemsJson items)

def membersJson : List (String × Entry) → List (String × Json)
  | [] => []
  | (key, entry) :: members => (key, entry.toJson) :: membersJson members

def itemsJson : List (List (String × Entry)) → List Json
  | [] => []
  | members :: items => .object (membersJson members) :: itemsJson items

end

/-! ## Keys and values -/

def isKeyChar (c : Char) : Bool :=
  c.isAlphanum || c == '_' || c == '-'

def readPart (cs : List Char) : Option (String × List Char) :=
  let word := cs.takeWhile isKeyChar
  if word.isEmpty then (readLineText cs).map fun (text, rest) => (String.ofList text, rest)
  else some (String.ofList word, cs.dropWhile isKeyChar)

/-- How many containers or parts of a key may be nested in one another. -/
def maxNesting : Nat := 79

/-- A key: its parts with dots between, blanks allowed around each, and the text after it. -/
def readKey : (parts : Nat) → List Char → Option (List String × List Char)
  | 0, _ => none
  | parts + 1, cs => do
    let (part, rest) ← readPart (skipBlanks cs)
    match skipBlanks rest with
    | '.' :: rest => (readKey parts rest).map fun (path, rest) => (part :: path, rest)
    | rest => some ([part], rest)

def addPath (path : List String) (value : Json) (members : Members) : Option Members :=
  path.getLast?.bind fun key => addKey key value path.dropLast members

mutual

/-- A value at the start of a text, which may hold so many levels of containers. -/
def readValue : (fuel nesting : Nat) → List Char → Option (Json × List Char)
  | 0, _, _ => none
  | fuel + 1, nesting, cs =>
    match cs with
    | '"' :: _ | '\'' :: _ =>
      (readText cs).map fun (text, rest) => (.string (String.ofList text), rest)
    | '[' :: cs =>
      match nesting with
      | 0 => none
      | nesting + 1 => (readItems fuel nesting cs).map fun (items, rest) => (.array items, rest)
    | '{' :: cs =>
      match nesting with
      | 0 => none
      | nesting + 1 =>
        match skipBlanks cs with
        | '}' :: rest => some (.object [], rest)
        | cs =>
          (readMembers fuel nesting [] cs).map fun (members, rest) =>
            (.object (membersJson members), rest)
    | cs => readScalar cs

/-- The items of an array up to its end; a comma may follow the last. -/
def readItems : (fuel nesting : Nat) → List Char → Option (List Json × List Char)
  | 0, _, _ => none
  | fuel + 1, nesting, cs => do
    match ← skipFiller false cs with
    | ']' :: rest => some ([], rest)
    | cs => do
      let (item, rest) ← readValue fuel nesting cs
      match ← skipFiller false rest with
      | ',' :: rest => (readItems fuel nesting rest).map fun (items, rest) => (item :: items, rest)
      | ']' :: rest => some ([item], rest)
      | _ => none

def readMembers : (fuel nesting : Nat) → Members → List Char → Option (Members × List Char)
  | 0, _, _, _ => none
  | fuel + 1, nesting, members, cs => do
    match ← readKey maxNesting cs with
    | (path, '=' :: rest) => do
      let (value, rest) ← readValue fuel nesting (skipBlanks rest)
      let members ← addPath path value members
      match skipBlanks rest with
      | ',' :: rest => readMembers fuel nesting members rest
      | '}' :: rest => some (members, rest)
      | _ => none
    | _ => none

end

/-! ## Lines -/

/-- What has been read so far, and the table that keys belong to. -/
structure Progress where
  root : Members := []
  current : List String := []

namespace Progress

def enter (p : Progress) (openLast : String → Members → Option Members) (path : List String) :
    Option Progress :=
  path.getLast?.bind fun key =>
    (updateAt (openLast key) path.dropLast p.root).map fun root => { root, current := path }

def readLine (p : Progress) (cs : List Char) : Option (Progress × List Char) :=
  match cs with
  | '[' :: '[' :: cs => do
    match ← readKey maxNesting cs with
    | (path, ']' :: ']' :: rest) => some (← p.enter openItem path, ← endOfLine? rest)
    | _ => none
  | '[' :: cs => do
    match ← readKey maxNesting cs with
    | (path, ']' :: rest) => some (← p.enter openTable path, ← endOfLine? rest)
    | _ => none
  | cs => do
    match ← readKey maxNesting cs with
    | (path, '=' :: rest) => do
      let (value, rest) ← readValue (2 * rest.length + 2) maxNesting (skipBlanks rest)
      let root ← updateAt (addPath path value) p.current p.root
      some ({ p with root }, ← endOfLine? rest)
    | _ => none

def readLines (p : Progress) : (fuel : Nat) → List Char → Option Progress
  | 0, _ => none
  | fuel + 1, cs => do
    match ← skipFiller false cs with
    | [] => some p
    | cs => do
      let (p, rest) ← p.readLine cs
      p.readLines fuel rest

end Progress

/-- The members of a document. A mark of byte order at its start does not count. -/
def parse (text : String) : Option (List (String × Json)) :=
  let cs := match text.toList with
    | '\uFEFF' :: cs => cs
    | cs => cs
  (Progress.readLines {} (cs.length + 1) cs).map fun p => membersJson p.root

end SheetMarkup.Toml
