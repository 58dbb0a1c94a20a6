import SqlGuard.Profile.Toml.Number
import SqlGuard.Profile.Toml.Text

/-!
# Values of a TOML document

Of an array or a table in a value only the kind is kept, after it has been
checked: tables must not name anything twice.
-/
namespace SqlGuard.Profile.Toml

/-- Adds names to a table that is written in a value. -/
def insertAll (pairs : List (List Key × Setting)) : Option Node :=
  pairs.foldlM (fun root (key, setting) => root.insert key (.value setting ⟨0, 0⟩))
    (.emptyTable ⟨0, 0⟩)

mutual

/-- A value with so many arrays and tables around it. -/
def value (fuel depth : Nat) (s : List Char) : Option (Setting × List Char) :=
  match fuel with
  | 0 => none
  | fuel + 1 =>
    match s with
    | '"' :: _ | '\x27' :: _ => (string s).map fun (text, rest) => (.text text, rest)
    | '[' :: rest =>
      if depth + 1 < depthLimit then
        (elements fuel (depth + 1) rest).map fun rest => (.sequence, rest)
      else none
    | '\x7b' :: rest =>
      if depth + 1 < depthLimit then do
        let (pairs, rest) ← inlinePairs fuel (depth + 1) rest
        discard (insertAll pairs)
        some (.map, rest)
      else none
    | 't' :: 'r' :: 'u' :: 'e' :: rest => some (.bool true, rest)
    | 'f' :: 'a' :: 'l' :: 's' :: 'e' :: rest => some (.bool false, rest)
    | _ => number s

/-- The elements of an array up to its end. -/
def elements (fuel depth : Nat) (s : List Char) : Option (List Char) :=
  match fuel with
  | 0 => none
  | fuel + 1 =>
    match skipLines (s.length + 1) s with
    | ']' :: rest => some rest
    | t => do
      let (_, rest) ← value fuel depth t
      match skipLines (rest.length + 1) rest with
      | ',' :: rest => elements fuel depth rest
      | ']' :: rest => some rest
      | _ => none

/-- The names and values of a table, up to its end. -/
def inlinePairs (fuel depth : Nat) (s : List Char) :
    Option (List (List Key × Setting) × List Char) :=
  match fuel with
  | 0 => none
  | fuel + 1 =>
    match skipBlanks s with
    | '\x7d' :: rest => some ([], rest)
    | t => morePairs fuel depth t

/-- At least one name with its value, up to the end of the table. -/
def morePairs (fuel depth : Nat) (s : List Char) :
    Option (List (List Key × Setting) × List Char) :=
  match fuel with
  | 0 => none
  | fuel + 1 => do
    let (name, rest) ← key 0 s
    let rest ← expect '=' rest
    let (setting, rest) ← value fuel depth (skipBlanks rest)
    match skipBlanks rest with
    | ',' :: rest => do
      let (pairs, rest) ← morePairs fuel depth rest
      some ((name, setting) :: pairs, rest)
    | '\x7d' :: rest => some ([(name, setting)], rest)
    | _ => none

end

end SqlGuard.Profile.Toml
