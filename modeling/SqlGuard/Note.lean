/-!
# Notes for the journal

A `Note` is one record for the log: how important it is, who writes it, and
what it says.

The notes are the log records that the shell, the executor and the client write.
-/
namespace SqlGuard

/-- From the most important to the least. -/
inductive Level
  | error
  | warn
  | info
  | debug
  | trace
  deriving DecidableEq, Repr

namespace Level

def rank : Level → Nat
  | error => 1
  | warn => 2
  | info => 3
  | debug => 4
  | trace => 5

def name : Level → String
  | error => "ERROR"
  | warn => "WARN"
  | info => "INFO"
  | debug => "DEBUG"
  | trace => "TRACE"

end Level

structure Note where
  level : Level
  /-- The part of the program that writes the note. -/
  target : String
  text : String
  deriving DecidableEq, Repr

end SqlGuard
