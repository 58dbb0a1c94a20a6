import SqlGuard.Arguments.Usage
import SqlGuard.ConnectionString.Read

/-!
# Reading the command line

Switches stand in front. The first word that is neither a switch nor the value
of one begins the statement, and from there on every word is taken as it is;
two hyphens alone end the switches too. A switch that waits for its value is
settled when the next switch or the statement begins, so what is wrong with it
comes to light only then, and never behind an unknown switch.
-/
namespace SqlGuard

open Arguments

/-- What the command line asks for. Models `Cli`. -/
structure Invocation where
  config : Option String
  url : Option String
  host : Option String
  port : Option UInt16
  user : Option String
  database : Option String
  /-- The words of the statement. -/
  words : List String
  deriving DecidableEq, Repr

namespace Invocation

/-- No switch and no statement. -/
def bare : Invocation := ⟨none, none, none, none, none, none, []⟩

/-- The statement to run; without one the session is interactive. Models
`query_text`. -/
def query (i : Invocation) : Option String :=
  if i.words.isEmpty then none else some (" ".intercalate i.words)

/-- The fields set by switches of their own win over those of the connection
string. Models `overrides` of `Cli`. -/
def overrides (i : Invocation) : Except Fault Overrides :=
  let own : Overrides := ⟨i.host, i.port, i.user, none, i.database⟩
  match i.url with
  | none => .ok own
  | some url => (Overrides.ofConnectionString url).map own.orElse

end Invocation

namespace Arguments

/-- Why there is nothing to run. -/
inductive Departure
  | inquiry (i : Inquiry)
  | misuse (m : Misuse)
  deriving DecidableEq, Repr

/-- Help and version are answers; everything else is a mistake. -/
def Departure.exitCode : Departure → Nat
  | inquiry _ => 0
  | misuse _ => 2

/-- The text that is shown. -/
def Departure.text (fallback : Option String) : Departure → String
  | inquiry .help => help fallback
  | inquiry .version => version
  | misuse m => m.text

/-- The switches read so far. -/
structure Scan where
  read : Invocation
  /-- The choices that have been given, in their order. -/
  given : List Choice
  /-- A choice that is not settled, and its value. -/
  pending : Option (Choice × Option String)
  deriving DecidableEq, Repr

namespace Scan

def start : Scan := ⟨.bare, [], none⟩

/-- Puts the value of a choice into its field. -/
def setField (i : Invocation) (c : Choice) (value : String) : Except Misuse Invocation :=
  match c with
  | .config => if value = "" then .error (.noValue .config) else .ok { i with config := some value }
  | .url => .ok { i with url := some value }
  | .host => .ok { i with host := some value }
  | .port =>
    match Number.readPort value.toList with
    | .ok port => .ok { i with port := some port }
    | .error fault => .error (.invalidPort value fault)
  | .user => .ok { i with user := some value }
  | .database => .ok { i with database := some value }

/-- Takes the value of a choice, which must be the first one for it. -/
def take (s : Scan) (c : Choice) (value : String) : Except Misuse Scan :=
  if c ∈ s.given then .error (.repeated c)
  else (setField s.read c value).map fun read => ⟨read, s.given ++ [c], none⟩

/-- Settles the choice that waits. -/
def settle (s : Scan) : Except Misuse Scan :=
  match s.pending with
  | none => .ok s
  | some (c, none) => .error (.noValue c)
  | some (c, some value) => s.take c value

/-- The choices that count as given when an unknown switch turns up. A choice
whose value does not fit counts, and one given twice does not. -/
def counted (s : Scan) : List Choice :=
  match s.pending with
  | some (c, some _) => if c ∈ s.given then s.given.erase c else s.given ++ [c]
  | _ => s.given

/-- The statement begins. The profile may be named by the environment instead of
a switch. -/
def finish (s : Scan) (fallback : Option String) (words : List String) :
    Except Misuse Invocation := do
  let s ← s.settle
  let s ← match s.read.config, fallback with
    | none, some path => s.take .config path
    | _, _ => .ok s
  .ok { s.read with words := words }

end Scan

/-- A word of the command line. -/
inductive Word
  /-- Two hyphens alone. -/
  | separator
  | long (name : List Char) (value : Option String)
  | short (letter : Char) (rest : List Char)
  | plain
  deriving DecidableEq, Repr

/-- A long name reaches to the first equals sign. A single hyphen is a plain
word. -/
def Word.ofText (word : List Char) : Word :=
  match word with
  | ['-', '-'] => separator
  | '-' :: '-' :: rest =>
    let value := match rest.dropWhile (· ≠ '=') with
      | [] => none
      | _ :: value => some (String.ofList value)
    long (rest.takeWhile (· ≠ '=')) value
  | '-' :: letter :: rest => short letter rest
  | _ => plain

/-- The value written right behind a letter, with or without an equals sign. -/
def attached : List Char → Option String
  | [] => none
  | '=' :: value => some (String.ofList value)
  | value => some (String.ofList value)

/-- A choice, with its value if that has been given in the same word. -/
def choose (s : Scan) (c : Choice) (value : Option String) : Except Misuse Scan := do
  let s ← s.settle
  match value with
  | some value => s.take c value
  | none => .ok { s with pending := some (c, none) }

/-- An inquiry ends the reading. -/
def inquire (s : Scan) (i : Inquiry) : Departure :=
  match s.settle with
  | .error m => .misuse m
  | .ok _ => .inquiry i

/-- Reads a switch. -/
def readSwitch (s : Scan) (switch : Switch) (value : Option String) : Except Departure Scan :=
  match switch, value with
  | .choice c, value => (choose s c value).mapError .misuse
  | .inquiry i, none => .error (inquire s i)
  | .inquiry i, some value => .error (.misuse (.excess value i (s.given.map .choice)))

/-- Reads words up to the statement. -/
def readFrom (fallback : Option String) (s : Scan) : List String → Except Departure Invocation
  | [] => (s.finish fallback []).mapError .misuse
  | word :: rest =>
    match Word.ofText word.toList with
    | .separator => (s.finish fallback rest).mapError .misuse
    | .long name value =>
      match Switch.ofName name with
      | some switch => do
        let s ← readSwitch s switch value
        readFrom fallback s rest
      | none => .error (.misuse (.unknownName name (s.counted.map .choice)))
    | .short letter more =>
      match Switch.ofLetter letter with
      | some (.inquiry i) => .error (inquire s i)
      | some switch => do
        let s ← readSwitch s switch (attached more)
        readFrom fallback s rest
      | none => .error (.misuse (.unknownLetter letter))
    | .plain =>
      match s.pending with
      | some (c, none) => readFrom fallback { s with pending := some (c, some word) } rest
      | _ => (s.finish fallback (word :: rest)).mapError .misuse

/-- What the arguments of a call ask for. Models `parse_args`. -/
def read (arguments : List String) (fallback : Option String) : Except Departure Invocation :=
  readFrom fallback .start arguments

end Arguments

end SqlGuard
