import SqlGuard.Policy

/-!
# What can go wrong

A `Fault` ends a statement, a session or the program. `exitCode` is the status
that the program leaves with.

A fault models `SqlToolError`, and its `message` is how that is displayed.
-/
namespace SqlGuard

inductive Fault
  | config (detail : String)
  | connection (detail : String)
  | query (detail : String)
  | rejected (reason : Policy.Rejection)
  | io (detail : String)
  | internal (detail : String)
  deriving DecidableEq, Repr

namespace Fault

def category : Fault → String
  | config _ => "Configuration Error"
  | connection _ => "Connection Error"
  | query _ => "Query Error"
  | rejected _ => "Policy Rejection"
  | io _ => "I/O Error"
  | internal _ => "Internal Error"

def message : Fault → String
  | config detail => "Configuration error: " ++ detail
  | connection detail => "Connection error: " ++ detail
  | query detail => "Query error: " ++ detail
  | rejected reason => "Query rejected: " ++ reason.text
  | io detail => "I/O error: " ++ detail
  | internal detail => "Internal error: " ++ detail

/-- After such a fault the client cannot be used any more. Models
`is_connection_error`. -/
def isConnection : Fault → Bool
  | connection _ => true
  | _ => false

def isIo : Fault → Bool
  | io _ => true
  | _ => false

/-- A rejected statement is told apart from every other failure. Models
`exit_code`. -/
def exitCode : Fault → Nat
  | rejected _ => 2
  | _ => 1

end Fault

end SqlGuard
