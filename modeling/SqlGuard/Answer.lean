import SqlGuard.Number.Written
import SqlGuard.Text.Utf8

/-!
# Answers to statements

A statement is answered by a set of rows, or by the number of rows that it
changed. Cells keep the type that the server sent them with, as far as it
matters to how they are shown.

An `Answer` models `QueryResult`, with `ColumnInfo` as `Column`.
-/
namespace SqlGuard

inductive Value
  | null
  | int (n : Int)
  | uint (n : Nat)
  | float (x : Binary64)
  | decimal (text : String)
  | string (text : String)
  | bytes (octets : List UInt8)
  | temporal (text : String)
  deriving DecidableEq, Repr

namespace Value

def isNumeric : Value → Bool
  | int _ | uint _ | float _ | decimal _ => true
  | _ => false

/-- The text of a value. Octets that are no text are counted. Models
`to_display_string`. -/
def display : Value → String
  | null => "NULL"
  | int n => toString n
  | uint n => toString n
  | float x => x.positional
  | decimal text | string text | temporal text => text
  | bytes octets =>
    match Text.Utf8.decodeString octets with
    | .ok text => text
    | .error _ => "<" ++ toString octets.length ++ " bytes>"

end Value

structure Column where
  name : String
  type : String
  deriving DecidableEq, Repr

/-- A span of time. -/
structure Elapsed where
  secs : Nat
  nanos : Nat
  deriving DecidableEq, Repr

namespace Elapsed

def zero : Elapsed := ⟨0, 0⟩

def ofMillis (n : Nat) : Elapsed := ⟨n / 1000, n % 1000 * 1000000⟩

/-- Whole milliseconds. -/
def millis (t : Elapsed) : Nat := t.secs * 1000 + t.nanos / 1000000

def micros (t : Elapsed) : Nat := t.secs * 1000000 + t.nanos / 1000

end Elapsed

structure Answer where
  columns : List Column
  rows : List (List Value)
  elapsed : Elapsed
  rowCount : Nat
  affected : Nat
  hasRows : Bool
  deriving DecidableEq, Repr

namespace Answer

/-- The answer to a statement that has no rows. -/
def command (affected : Nat) : Answer := ⟨[], [], .zero, 0, affected, false⟩

/-- A set of rows. Models `with_data` of `QueryResult`. -/
def table (columns : List Column) (rows : List (List Value)) : Answer :=
  ⟨columns, rows, .zero, rows.length, 0, true⟩

def isCommand (a : Answer) : Bool := !a.hasRows

def isEmpty (a : Answer) : Bool := a.rows.isEmpty

def columnNames (a : Answer) : List String := a.columns.map (·.name)

end Answer

end SqlGuard
