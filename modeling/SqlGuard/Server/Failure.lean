import SqlGuard.Endpoint
import SqlGuard.Fault
import SqlGuard.Text.Letters
import SqlGuard.Text.Utf8

/-!
# Failures of a database connection

An error packet of the server holds a number and octets with an optional state
and a message. `Failure` is what a connection can fail with, and `whileConnecting`
and `whileExecuting` say which fault it becomes. Every fault's text contains the
text of the failure, or the number, state and message that it consists of.
-/
namespace SqlGuard.Server

open SqlGuard.Text

/-- An error that the server reports. -/
structure ServerError where
  number : Nat
  state : Option String
  message : String
  deriving DecidableEq, Repr

/-- What a connection fails with. -/
inductive Failure
  | io (detail : String)
  | tls (detail : String)
  | protocol (detail : String)
  | server (error : ServerError)
  | other (detail : String)
  deriving DecidableEq, Repr

namespace Failure

/-- The number of an error and its state, if it has one. -/
def numberText (error : ServerError) : String :=
  toString error.number ++
    match error.state with
    | some state => " (" ++ state ++ ")"
    | none => ""

def text : Failure → String
  | io detail => "error communicating with database: " ++ detail
  | tls detail => "error occurred while attempting to establish a TLS connection: " ++ detail
  | protocol detail => "encountered unexpected or invalid data: " ++ detail
  | server error =>
    "error returned from database: " ++ numberText error ++ ": " ++ error.message
  | other detail => detail

/-- Nothing listens at the other end. -/
def connectionRefused : Failure := io "Connection refused (os error 111)"

/-- The other end is gone. -/
def connectionEnded : Failure := io "expected to read 4 bytes, got 0 bytes at EOF"

def mentions (word : String) (text : List Char) : Bool := occursIn word.toList text

/-- The fault of a connection that could not be made. Some texts are recognised,
in any case of letters, and get an explanation in front. Models
`map_connection_error`. -/
def whileConnecting (f : Failure) (e : Endpoint) : Fault :=
  let lower := smalls f.text.toList
  let raw := " (" ++ f.text ++ ")"
  .connection <|
    if mentions "connection refused" lower || mentions "error connecting" lower then
      "Cannot connect to " ++ e.host ++ ":" ++ toString e.port.toNat ++
        ". Check that the server is running." ++ raw
    else if mentions "access denied" lower then
      "Access denied for user '" ++ e.user ++ "'. Check your credentials." ++ raw
    else if mentions "unknown database" lower then
      "Database '" ++ e.database ++ "' does not exist." ++ raw
    else f.text

/-- The fault of a statement whose reply failed. An error that the server
reports leaves the connection usable; every other failure of the connection
loses it. Models `classify_execution_error`, with the text of
`format_query_error`. -/
def whileExecuting : Failure → Fault
  | io detail => .connection (io detail).text
  | tls detail => .connection (tls detail).text
  | protocol detail => .connection (protocol detail).text
  | server error => .query ("ERROR " ++ numberText error ++ ": " ++ error.message)
  | other detail => .internal ("Unexpected driver error: " ++ detail)

/-- The text of octets, or else a failure. -/
def textOf (octets : List UInt8) : Except Failure String :=
  match Utf8.decodeString octets with
  | .ok text => .ok text
  | .error malformed => .error (protocol malformed.text)

end Failure

/-- An error as the server sends it. -/
structure ErrorPacket where
  number : Nat
  body : List UInt8
  deriving DecidableEq, Repr

namespace ErrorPacket

/-- The octet in front of a state. -/
def stateMark : UInt8 := 35

def ofParts (number : Nat) (state : Option String) (message : List UInt8) : ErrorPacket :=
  match state with
  | some state => ⟨number, stateMark :: (Utf8.encodeString state ++ message)⟩
  | none => ⟨number, message⟩

/-- The error that a packet reports. The five octets behind a mark at the
start are the state. -/
def read (p : ErrorPacket) : Except Failure ServerError :=
  match p.body with
  | [] => .ok ⟨p.number, none, ""⟩
  | first :: rest =>
    if first = stateMark then do
      let state ← Failure.textOf (rest.take 5)
      let message ← Failure.textOf (rest.drop 5)
      .ok ⟨p.number, some state, message⟩
    else do
      let message ← Failure.textOf p.body
      .ok ⟨p.number, none, message⟩

/-- What receiving the packet fails with. -/
def failure (p : ErrorPacket) : Failure :=
  match p.read with
  | .ok error => .server error
  | .error failure => failure

end ErrorPacket

end SqlGuard.Server
