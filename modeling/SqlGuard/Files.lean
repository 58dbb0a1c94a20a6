import SqlGuard.Text.Split

/-!
# Files

What a program finds on a disk, and what it leaves there. A `Files` is a tree
of directories with a place in it to which relative paths refer. `look` follows
a path, and `create` makes an empty file and the directories above it.

Profiles are looked for in it, and `create` makes the log file as
`open_log_file` does.
-/
namespace SqlGuard

/-- What a path leads to. -/
inductive Found
  | nothing
  | directory
  | file (octets : List UInt8)
  deriving DecidableEq, Repr

/-- Why a file cannot be created. -/
inductive Obstacle
  | exists
  | notDirectory
  | isDirectory
  | other (text : String)
  deriving DecidableEq, Repr

def Obstacle.text : Obstacle → String
  | .exists => "File exists (os error 17)"
  | .notDirectory => "Not a directory (os error 20)"
  | .isDirectory => "Is a directory (os error 21)"
  | .other text => text

/-- The names on the way from the root. -/
abbrev Place : Type := List String

structure Files where
  here : Place
  /-- The directories and files that have been made, the latest first. The
  directories above them need not be among them. -/
  made : List (Place × Option (List UInt8))
  deriving Repr

namespace Files

/-- The names of a path between its slashes. -/
def namesOf (path : String) : List String := (Text.splitAt '/' path.toList).map String.ofList

def at? (f : Files) (place : Place) : Found :=
  match f.made.lookup place with
  | some (some octets) => .file octets
  | some none => .directory
  | none => if place.isEmpty || f.made.any (place.isPrefixOf ·.1) then .directory else .nothing

/-- Goes from a place along names, each of which needs a directory to start
from. -/
def walk (f : Files) : Place → List String → Option Place
  | place, [] => some place
  | place, name :: names =>
    if f.at? place ≠ .directory then none
    else if name = "" ∨ name = "." then walk f place names
    else if name = ".." then walk f place.dropLast names
    else walk f (place ++ [name]) names

/-- The place that a path names. A path that begins with a slash starts from the
root. An empty one names none. -/
def placeOf (f : Files) (path : String) : Option Place :=
  if path = "" then none
  else f.walk (if path.toList.head? = some '/' then [] else f.here) (namesOf path)

def look (f : Files) (path : String) : Found :=
  match f.placeOf path with
  | none => .nothing
  | some place => f.at? place

/-- Makes the directories of a path that are not there. -/
def createAbove (f : Files) : Place → List String → Except Obstacle (Place × Files)
  | place, [] => .ok (place, f)
  | place, name :: names =>
    if name = ".." then createAbove f place.dropLast names
    else
      let next := place ++ [name]
      match f.at? next with
      | .directory => createAbove f next names
      | .nothing => createAbove { f with made := (next, none) :: f.made } next names
      | .file _ => .error (if names.isEmpty then .exists else .notDirectory)

/-- Makes an empty file in place of what it held before. -/
def create (f : Files) (path : String) : Except Obstacle Files := do
  let names := (namesOf path).filter fun name => name ≠ "" && name ≠ "."
  let start := if path.toList.head? = some '/' then [] else f.here
  let (above, f) ← f.createAbove start names.dropLast
  let place := above ++ names.getLast?.toList
  if f.at? place = .directory then .error .isDirectory
  else .ok { f with made := (place, some []) :: f.made.filter (·.1 ≠ place) }

/-- Puts octets into a file that is there. -/
def write (f : Files) (path : String) (octets : List UInt8) : Files :=
  match f.placeOf path with
  | none => f
  | some place => { f with made := (place, some octets) :: f.made.filter (·.1 ≠ place) }

end Files

end SqlGuard
