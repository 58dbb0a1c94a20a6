import SqlGuard.Supplier

/-!
# Executing one statement

`Execution.run` is the gate in front of a client: a statement that the policy
rejects never reaches it, and an admitted one reaches it once, as it is.
-/
namespace SqlGuard

/-- The outcome of a statement. Models `ExecutionResult`. -/
inductive Execution
  | success (answer : Answer) (elapsed : Elapsed)
  | rejected (sql : String) (reason : Policy.Rejection)
  | failed (fault : Fault)
  deriving DecidableEq, Repr

namespace Execution

def target : String := "db_sqltool::query::executor"

/-- The fault of a statement that was not answered: what `into_result` fails
with. -/
def fault? : Execution → Option Fault
  | success .. => none
  | rejected _ reason => some (.rejected reason)
  | failed fault => some fault

/-- The client that ran the statement is lost. -/
def losesClient : Execution → Bool
  | failed fault => fault.isConnection
  | _ => false

/-- What happened in an execution, its outcome, and the state it leaves. -/
structure Run (κ σ : Type) where
  events : List (Event κ)
  outcome : Execution
  state : σ

variable {κ σ : Type}

/-- Executes a statement on a client, unless the policy rejects it. Models
`execute` of `QueryExecutor`. -/
def run (s : Supplier κ σ) (client : κ) (sql : String) (state : σ) : Run κ σ :=
  match Policy.classify sql with
  | .rejected reason =>
    ⟨[.noted ⟨.debug, target, "Rejected query: " ++ reason.text⟩], .rejected sql reason, state⟩
  | .admitted =>
    let reply := s.execute client sql state
    let events := .executed client sql :: Event.notes reply.notes
    match reply.result with
    | .ok answer => ⟨events, .success answer (s.duration client sql state), reply.state⟩
    | .error fault =>
      ⟨events ++ [.noted ⟨.warn, target, "Query failed: " ++ fault.message⟩], .failed fault,
        reply.state⟩

end Execution

end SqlGuard
