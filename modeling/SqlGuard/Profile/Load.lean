import SqlGuard.Fault
import SqlGuard.Files
import SqlGuard.Number.Written
import SqlGuard.Profile.Json
import SqlGuard.Profile.Toml.Document
import SqlGuard.Text.Utf8

/-!
# Loading a profile

The name of a file decides how it is read: one that ends in `.json`, in any
case, is a JSON document, and every other one a TOML document. Every fault is
one of the configuration and names the file.
-/
namespace SqlGuard.Profile

open SqlGuard.Text

/-! ## Names of files -/

/-- The last name on a path. -/
def fileName (path : List Char) : List Char := ((splitAt '/' path).filter (· ≠ [])).getLast?.getD []

/-- What follows the last dot of a name, unless the name begins with that dot. -/
def extension (name : List Char) : Option (List Char) :=
  let ending := (name.reverse.takeWhile (· ≠ '.')).reverse
  if ending.length + 1 < name.length then some ending else none

def isJsonName (path : String) : Bool :=
  (extension (fileName path.toList)).map (·.map asciiSmall) = some ['j', 's', 'o', 'n']

/-! ## TOML -/

namespace Toml

/-- Why a TOML document describes no endpoint. -/
inductive Flaw
  /-- It is no document at all. -/
  | malformed
  | unfit (cause : Unfit) (place : Extent)
  deriving DecidableEq, Repr

/-- Takes the items of the root table in their order. -/
def readItem (d : Draft) (item : String × Node) : Except Flaw Draft :=
  match d.add (item.1, item.2.setting) with
  | .ok d => .ok d
  | .error cause => .error (.unfit cause item.2.place)

/-- The endpoint that a document describes. -/
def read (document : List Char) : Except Flaw Endpoint :=
  match Toml.document document with
  | some (.table _ _ place items) => do
    let d ← items.foldlM readItem Draft.empty
    match d.endpoint with
    | .ok endpoint => .ok endpoint
    | .error cause => .error (.unfit cause place)
  | _ => .error .malformed

/-- Shows the line of a document with a place on it, and a message about it. -/
def pointOut (document : List Char) (place : Extent) (message : String) : String :=
  let start := min place.start (document.length - 1)
  let line := (document.take start).count '\n'
  let column := ((document.take start).reverse.takeWhile (· ≠ '\n')).length + (place.start - start)
  let content := ((splitAt '\n' document)[line]?).getD []
  let marked := min (Utf8.encode ((document.drop place.start).take (place.stop - place.start))).length
    ((Utf8.encode content).length - column)
  let number := toString (line + 1)
  let margin := String.ofList (List.replicate (number.length + 1) ' ') ++ "|"
  "TOML parse error at line " ++ number ++ ", column " ++ toString (column + 1) ++ "\n" ++
    margin ++ "\n" ++ number ++ " | " ++ String.ofList content ++ "\n" ++
    margin ++ String.ofList (List.replicate (column + 1) ' ' ++ List.replicate (max marked 1) '^') ++
    "\n" ++ message ++ "\n"

def Flaw.text (document : List Char) : Flaw → String
  | .malformed => pointOut document ⟨0, 0⟩ "invalid document"
  | .unfit cause place => pointOut document place (cause.text Binary64.pointed)

end Toml

/-! ## Both formats -/

/-- The text of a fault in the contents of a file. -/
def faultIn (path text : String) : Fault :=
  .config ("Configuration error in " ++ path ++ ":\n  " ++ text)

/-- The endpoint that a JSON file describes. Models `parse_json`. -/
def ofJson (path : String) (octets : List UInt8) : Except Fault Endpoint :=
  match readJson octets with
  | .ok endpoint => .ok endpoint
  | .error (flaw, position) =>
    .error (faultIn path (flaw.text ++ " at line " ++ toString position.line ++ " column " ++
      toString position.column))

/-- The endpoint that a TOML file describes. Models `parse_toml`. -/
def ofToml (path : String) (document : List Char) : Except Fault Endpoint :=
  match Toml.read document with
  | .ok endpoint => .ok endpoint
  | .error flaw => .error (faultIn path (flaw.text document))

/-- The endpoint described by what a path leads to. Models `load_from_file`. -/
def load (path : String) : Found → Except Fault Endpoint
  | .nothing => .error (.config ("Config file not found: " ++ path))
  | .directory => .error (.config ("Failed to read " ++ path ++ ": " ++ Obstacle.isDirectory.text))
  | .file octets =>
    match Utf8.decode octets with
    | .error _ =>
      .error (.config ("Failed to read " ++ path ++ ": stream did not contain valid UTF-8"))
    | .ok document => if isJsonName path then ofJson path octets else ofToml path document

end SqlGuard.Profile
