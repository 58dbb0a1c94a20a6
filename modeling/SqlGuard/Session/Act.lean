import SqlGuard.Execution
import SqlGuard.Session.Terminal

/-!
# Acts of a session

An `Act` is a part of a session: from the state of the desk it makes a list of
events, a result and the next state of the desk. A fault ends the acts that
follow, except those that run in any case (`Act.andThen`).
-/
namespace SqlGuard

/-- What a session works with: what lies behind the supplier, the client that
is kept open, and the terminal. -/
structure Desk (κ σ : Type) where
  world : σ
  held : Option κ
  terminal : Terminal

/-- How an act went. -/
structure Stage (κ σ α : Type) where
  events : List (Event κ)
  result : Except Fault α
  desk : Desk κ σ

def Act (κ σ α : Type) : Type := Desk κ σ → Stage κ σ α

namespace Act

variable {κ σ α β : Type}

def done (a : α) : Act κ σ α := fun desk => ⟨[], .ok a, desk⟩

/-- One act after another, if the first one succeeds. -/
def next (act : Act κ σ α) (f : α → Act κ σ β) : Act κ σ β := fun desk =>
  let first := act desk
  match first.result with
  | .ok a =>
    let second := f a first.desk
    ⟨first.events ++ second.events, second.result, second.desk⟩
  | .error fault => ⟨first.events, .error fault, first.desk⟩

instance : Monad (Act κ σ) where
  pure := done
  bind := next

def fail (fault : Fault) : Act κ σ α := fun desk => ⟨[], .error fault, desk⟩

/-- Runs another act in any case, and keeps the first result. -/
def andThen (act : Act κ σ α) (final : Act κ σ Unit) : Act κ σ α := fun desk =>
  let first := act desk
  let second := final first.desk
  ⟨first.events ++ second.events, first.result, second.desk⟩

def event (e : Event κ) : Act κ σ Unit := fun desk => ⟨[e], .ok (), desk⟩

def note (level : Level) (target text : String) : Act κ σ Unit :=
  event (.noted ⟨level, target, text⟩)

/-- Writes to the terminal, as much as it takes. -/
def write (text : String) : Act κ σ Unit := fun desk =>
  let octets := Text.Utf8.encodeString text
  let t := desk.terminal
  ⟨[.wrote (t.accepted octets)], if t.takes octets then .ok () else .error (.io t.fault),
    { desk with terminal := t.afterWriting octets }⟩

/-- Writes a line to the terminal. -/
def say (text : String) : Act κ σ Unit := write (text ++ "\n")

def flush : Act κ σ Unit := fun desk =>
  if desk.terminal.canFlush then
    ⟨[.flushed], .ok (), { desk with terminal := desk.terminal.afterFlushing }⟩
  else ⟨[], .error (.io desk.terminal.fault), desk⟩

/-- Asks the supplier for a client. A refusal is a result, not the end. -/
def connect (s : Supplier κ σ) (e : Endpoint) : Act κ σ (Except Fault κ) := fun desk =>
  let reply := s.connect e desk.world
  let outcome := match reply.result with
    | .ok client => .connected client
    | .error fault => .refused fault
  ⟨Event.notes reply.notes ++ [outcome], .ok reply.result, { desk with world := reply.state }⟩

def execute (s : Supplier κ σ) (client : κ) (sql : String) : Act κ σ Execution := fun desk =>
  let run := Execution.run s client sql desk.world
  ⟨run.events, .ok run.outcome, { desk with world := run.state }⟩

/-- Closes a client. A fault in closing it is only noted. Models `release`. -/
def release (s : Supplier κ σ) (target : String) (client : κ) : Act κ σ Unit := fun desk =>
  let reply := s.close client desk.world
  let complaint := match reply.result with
    | .ok _ => []
    | .error fault => [.noted ⟨.warn, target, "Failed to close connection: " ++ fault.message⟩]
  ⟨.closed client :: (Event.notes reply.notes ++ complaint), .ok (),
    { desk with world := reply.state }⟩

def held : Act κ σ (Option κ) := fun desk => ⟨[], .ok desk.held, desk⟩

def hold (client : Option κ) : Act κ σ Unit := fun desk =>
  ⟨[], .ok (), { desk with held := client }⟩

end Act

end SqlGuard
