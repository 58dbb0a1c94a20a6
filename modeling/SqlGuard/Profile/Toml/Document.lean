import SqlGuard.Profile.Toml.Value

/-!
# TOML documents

A document is read line by line. The table that the lines go to is kept beside
the finished ones until the next header, and then put in its place.

This is the reading that `parse_toml` asks for.
-/
namespace SqlGuard.Profile.Toml

/-- What has been read so far. -/
structure Progress where
  /-- The finished tables. -/
  root : Node
  /-- The table that the lines go to. -/
  current : Node
  /-- The name of that table; the root has none. -/
  path : List Key
  /-- That table is one of several under its name. -/
  isElement : Bool

namespace Progress

def start : Progress := ⟨.emptyTable ⟨0, 0⟩, .emptyTable ⟨0, 0⟩, [], false⟩

/-- A table reaches to the end of its last value. -/
def reach (stop : Nat) : Node → Node
  | .table i d place items => .table i d ⟨place.start, stop⟩ items
  | node => node

/-- A named value goes to the current table. -/
def addValue (p : Progress) (key : List Key) (setting : Setting) (place : Extent) :
    Option Progress :=
  (p.current.insert key (.value setting place)).map fun current =>
    { p with current := reach place.stop current }

/-- Adds a table to those under its name. -/
def appendElement (name : String) (element : Node) : Node → Option Node
  | .table i d place items =>
    match (items.lookup name).getD (.tables []) with
    | .tables elements => some (.table i d place (Node.put name (.tables (elements ++ [element])) items))
    | _ => none
  | _ => none

/-- Puts a table in its place, which must be free. -/
def placeTable (name : String) (child : Node) : Node → Option Node
  | .table i d place items =>
    if (items.lookup name).isSome then none else some (.table i d place (items ++ [(name, child)]))
  | _ => none

/-- Puts the current table in its place. -/
def finish (p : Progress) : Option Node :=
  match p.path.getLast? with
  | none => some p.current
  | some last =>
    let change := if p.isElement then appendElement last.name p.current
      else placeTable last.name p.current
    Node.alter false change p.path.dropLast p.root

/-- A name that tables of an array may have. -/
def openElement (name : String) : Node → Option Node
  | .table i d place items =>
    match items.lookup name with
    | none => some (.table i d place (items ++ [(name, .tables [])]))
    | some (.tables _) => some (.table i d place items)
    | some _ => none
  | _ => none

/-- Begins another table under a name. -/
def startElement (p : Progress) (path : List Key) (place : Extent) : Option Progress := do
  let root ← p.finish
  let last ← path.getLast?
  let root ← Node.alter false (openElement last.name) path.dropLast root
  some ⟨root, .emptyTable place, path, true⟩

/-- Takes a table of that name away, if there is one. -/
def removeTable (name : String) : Node → Option Node
  | .table i d place items => some (.table i d place (items.filter (·.1 ≠ name)))
  | _ => none

/-- The items that a table of that name already has: only a table that has not
been named itself can be named now. -/
def reopened (name : String) : Node → Option (List (String × Node))
  | .table _ _ _ items =>
    match items.lookup name with
    | none => some []
    | some (.table true false _ inner) => some inner
    | some _ => none
  | _ => none

/-- The table that a path leads to. -/
def follow : List Key → Node → Option Node
  | [], node => some node
  | key :: path, .table _ _ _ items =>
    match items.lookup key.name with
    | some (.tables elements) => elements.getLast?.bind (follow path)
    | some node => follow path node
    | none => none
  | _, _ => none

/-- Begins the table of a name. -/
def startTable (p : Progress) (path : List Key) (place : Extent) : Option Progress := do
  let root ← p.finish
  let last ← path.getLast?
  let root ← Node.alter false some path.dropLast root
  let parent ← follow path.dropLast root
  let items ← reopened last.name parent
  let root ← Node.alter false (removeTable last.name) path.dropLast root
  some ⟨root, .table false false place items, path, false⟩

end Progress

/-- A header, whose brackets have been counted, and the rest of its line. -/
def header (length : Nat) (closing s : List Char) : Option (List Key × List Char) := do
  let (path, rest) ← key length s
  if closing.isPrefixOf rest then
    let rest ← lineRest (rest.drop closing.length)
    some (path, rest)
  else none

/-- One statement, which is not blank. -/
def statement (length : Nat) (p : Progress) (s : List Char) : Option (Progress × List Char) :=
  match s with
  | '#' :: _ => (lineEnd (skipComment s)).map fun rest => (p, rest)
  | '[' :: '[' :: rest => do
    let (path, rest) ← header length [']', ']'] rest
    let p ← p.startElement path (extent length s rest)
    some (p, rest)
  | '[' :: rest => do
    let (path, rest) ← header length [']'] rest
    let p ← p.startTable path (extent length s rest)
    some (p, rest)
  | _ =>
    match newline s with
    | some rest => some (p, rest)
    | none => do
      let (name, rest) ← key length s
      let rest ← expect '=' rest
      let written := skipBlanks rest
      let (setting, rest) ← value (2 * written.length + 2) 0 written
      let p ← p.addValue name setting (extent length written rest)
      let rest ← lineRest rest
      some (p, rest)

def statements (length : Nat) : Nat → Progress → List Char → Option Node
  | 0, _, _ => none
  | fuel + 1, p, s =>
    match skipBlanks s with
    | [] => p.finish
    | t => do
      let (p, rest) ← statement length p t
      statements length fuel p rest

/-- The root table of a document. A byte order mark at its start does not
count. -/
def document (s : List Char) : Option Node :=
  statements s.length (s.length + 1) .start (if s.head? = some '\ufeff' then s.drop 1 else s)

end SqlGuard.Profile.Toml
