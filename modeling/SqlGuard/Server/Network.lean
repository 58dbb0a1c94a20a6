import SqlGuard.Server.Link

/-!
# A server within reach

A `Network` has one server at most, which listens on one port of every address
and takes its connections in the order of their scripts. `network` is the
supplier of clients that connect to it.

The client's side of it models `MySqlConnector`.
-/
namespace SqlGuard.Server

structure Network where
  port : UInt16
  /-- The connections still to come, if anything listens. -/
  scripts : Option (List ConnectionScript)
  /-- The connections taken so far. -/
  links : List Link

namespace Network

/-- What the server does with a client that connects. -/
def loginEntry (e : Endpoint) : String :=
  "login user=" ++ e.user ++
    match e.selected with
    | some database => " database=" ++ database
    | none => ""

/-- A connection that ended before the client could use it. -/
def endedLink (record : List String) : Link := ⟨false, false, [], .plain, [], record⟩

def refusalFailure : Refusal → Failure
  | .dropped => .connectionEnded
  | .error packet => packet.failure

/-- The connection that a script gives, and why it cannot be used. When the
server refuses the client's own statement, it is the client who goes away. -/
def openLink (script : ConnectionScript) (e : Endpoint) : Option Failure × Link :=
  match script.greeting, script.login, script.setup with
  | some .dropped, _, _ => (some .connectionEnded, endedLink ["drop"])
  | some refusal, _, _ => (some (refusalFailure refusal), endedLink ["error"])
  | none, some refusal, _ => (some (refusalFailure refusal), endedLink [loginEntry e])
  | none, none, some .dropped => (some .connectionEnded, endedLink [loginEntry e])
  | none, none, some refusal => (some (refusalFailure refusal), endedLink [loginEntry e, "eof"])
  | none, none, none => (none, ⟨true, true, script.statements, .plain, [], [loginEntry e]⟩)

/-- A server that has no more scripts drops its connections. -/
def exhausted : ConnectionScript := ⟨some .dropped, none, none, []⟩

/-- Takes one connection. -/
def accept (n : Network) (e : Endpoint) : Except Failure Nat × Network :=
  match n.scripts with
  | none => (.error .connectionRefused, n)
  | some scripts =>
    if e.port = n.port then
      let (failure, link) := openLink (scripts.head?.getD exhausted) e
      let n := { n with scripts := some (scripts.drop 1), links := n.links ++ [link] }
      match failure with
      | none => (.ok (n.links.length - 1), n)
      | some failure => (.error failure, n)
    else (.error .connectionRefused, n)

/-- Opens a client. Models `connect` of `MySqlClient`. -/
def connect (e : Endpoint) (n : Network) : Reply Network Nat :=
  let start := Link.noteOf .debug ("Connecting to " ++ e.display)
  match n.accept e with
  | (.ok client, n) =>
    ⟨.ok client, [start, Link.noteOf .debug "Successfully connected to database"], n⟩
  | (.error failure, n) => ⟨.error (failure.whileConnecting e), [start], n⟩

/-- Asks something of one of the connections. -/
def ask {α : Type} (request : Link → Reply Link α) (client : Nat) (n : Network) :
    Reply Network α :=
  match n.links[client]? with
  | some link =>
    let reply := request link
    ⟨reply.result, reply.notes, { n with links := n.links.set client reply.state }⟩
  | none => ⟨.error (.internal "no such connection"), [], n⟩

/-- The client of a connection goes away without a word. -/
def abandon (n : Network) (client : Nat) : Network :=
  { n with links := n.links.modify client Link.abandon }

/-- What the server was asked, connection by connection. -/
def record (n : Network) : List (List String) := n.links.map (·.record)

end Network

/-- Clients of the server within reach. -/
def network : Supplier Nat Network where
  connect := Network.connect
  execute client sql := Network.ask (Link.execute sql) client
  close := Network.ask Link.close
  duration _ _ _ := .zero

end SqlGuard.Server
