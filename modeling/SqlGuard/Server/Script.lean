import SqlGuard.Answer
import SqlGuard.Server.Failure

/-!
# What a server sends

A server follows a script: how it greets a client, lets it log in and set up
its session, and what it replies to its statements. `readReply` is a
client's side of a reply. The first thing that goes wrong fails the whole reply,
and some failures end the connection.

A client reads a reply as the loop over the results in `execute_query` does.
-/
namespace SqlGuard.Server

/-- How a server turns a client away. -/
inductive Refusal
  | dropped
  | error (packet : ErrorPacket)
  deriving DecidableEq, Repr

/-- The type of a column as it is sent. -/
inductive TypeCode
  | known (name : String)
  /-- A code that stands for no type. -/
  | unknown (code : String)
  deriving DecidableEq, Repr

/-- A column as it is sent. -/
structure ColumnPacket where
  name : List UInt8
  type : TypeCode
  deriving DecidableEq, Repr

inductive RowPacket
  | cells (cells : List (Option (List UInt8)))
  | error (packet : ErrorPacket)
  | dropped
  deriving DecidableEq, Repr

/-- One of the results that a reply consists of. -/
inductive ResultPacket
  | done (affected : Nat)
  | rows (columns : List ColumnPacket) (rows : List RowPacket)
  | error (packet : ErrorPacket)
  | dropped
  /-- A packet without an octet. -/
  | empty
  deriving DecidableEq, Repr

/-- What a statement brings about: its reply, and its columns if they are asked
for. -/
structure StatementScript where
  reply : List ResultPacket
  description : Except ErrorPacket (List ColumnPacket)

structure ConnectionScript where
  greeting : Option Refusal
  login : Option Refusal
  setup : Option Refusal
  statements : List StatementScript

/-- The error of a statement that cannot be described. -/
def notDescribable : ErrorPacket :=
  .ofParts 1295 (some "HY000")
    (Text.Utf8.encodeString
      "This command is not supported in the prepared statement protocol yet")

/-- A statement that changes nothing and cannot be described. -/
def StatementScript.plain : StatementScript := ⟨[.done 0], .error notDescribable⟩

/-- A failure of a reply, and whether the connection ended with it. -/
structure Breakdown where
  failure : Failure
  ends : Bool
  deriving DecidableEq, Repr

/-- One result as a client has read it. -/
structure ResultSet where
  affected : Nat
  columns : List Column
  rows : List (List (Option (List UInt8)))
  deriving DecidableEq, Repr

def ended (failure : Failure) : Breakdown := ⟨failure, true⟩

def reported (packet : ErrorPacket) : Breakdown := ⟨packet.failure, false⟩

namespace ColumnPacket

/-- A type without a name or a name that is no text ends the connection. -/
def read (c : ColumnPacket) : Except Breakdown Column :=
  match c.type with
  | .unknown code => .error (ended (.protocol ("unknown column type " ++ code)))
  | .known type =>
    match Failure.textOf c.name with
    | .ok name => .ok ⟨name, type⟩
    | .error failure => .error (ended failure)

end ColumnPacket

def RowPacket.read : RowPacket → Except Breakdown (List (Option (List UInt8)))
  | cells row => .ok row
  | error packet => .error (reported packet)
  | dropped => .error (ended .connectionEnded)

def ResultPacket.read : ResultPacket → Except Breakdown ResultSet
  | done affected => .ok ⟨affected, [], []⟩
  | rows columns body => do
    let columns ← columns.mapM ColumnPacket.read
    let body ← body.mapM RowPacket.read
    .ok ⟨0, columns, body⟩
  | error packet => .error (reported packet)
  | dropped => .error (ended .connectionEnded)
  | empty => .error (ended (.protocol "Packet empty"))

/-- A whole reply as a client reads it. -/
def readReply (reply : List ResultPacket) : Except Breakdown (List ResultSet) :=
  reply.mapM ResultPacket.read

/-- The columns of a statement as a client reads them. -/
def readDescription (description : Except ErrorPacket (List ColumnPacket)) :
    Except Breakdown (List Column) :=
  match description with
  | .ok columns => columns.mapM ColumnPacket.read
  | .error packet => .error (reported packet)

end SqlGuard.Server
