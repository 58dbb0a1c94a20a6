import SqlGuard.Answer
import SqlGuard.Endpoint
import SqlGuard.Fault
import SqlGuard.Note

/-!
# Suppliers of database clients

A `Supplier` opens clients and does what clients are asked to do. What lies
behind it is a state of some type `σ`, changed by every request, and the
clients are handles of some type `κ`.

The requests are those of the interfaces `Connector` (`connect`) and
`DatabaseClient` (`execute_query`, `close`).
-/
namespace SqlGuard

/-- How a request ended: its result, the notes written on the way, and the
state it leaves. -/
structure Reply (σ α : Type) where
  result : Except Fault α
  notes : List Note
  state : σ

structure Supplier (κ σ : Type) where
  connect : Endpoint → σ → Reply σ κ
  execute : κ → String → σ → Reply σ Answer
  close : κ → σ → Reply σ Unit
  /-- How long the execution of a statement takes. -/
  duration : κ → String → σ → Elapsed

/-- What happens in a session, as far as it can be seen from outside. -/
inductive Event (κ : Type)
  /-- The terminal took some octets. -/
  | wrote (octets : List UInt8)
  | flushed
  | connected (client : κ)
  | refused (fault : Fault)
  | executed (client : κ) (sql : String)
  | closed (client : κ)
  | noted (note : Note)
  deriving DecidableEq

namespace Event

variable {κ : Type}

def notes (ns : List Note) : List (Event κ) := ns.map noted

/-- The octets that the terminal took. -/
def octets : Event κ → List UInt8
  | wrote bs => bs
  | _ => []

def note? : Event κ → Option Note
  | noted n => some n
  | _ => none

def statement? : Event κ → Option String
  | executed _ sql => some sql
  | _ => none

def isConnected : Event κ → Bool
  | connected _ => true
  | _ => false

def isClosed : Event κ → Bool
  | closed _ => true
  | _ => false

def isExecuted : Event κ → Bool
  | executed .. => true
  | _ => false

/-- A request to the supplier or to one of its clients. -/
def isRequest : Event κ → Bool
  | connected _ | refused _ | executed .. | closed _ => true
  | _ => false

end Event

end SqlGuard
