import SqlGuard.Command
import SqlGuard.Screen
import SqlGuard.Session.Act
import SqlGuard.Session.Input

/-!
# Sessions

A session runs one statement (`once`) or answers line after line at a prompt
(`interactive`). Only an admitted statement makes it connect. A single
statement's client is closed before anything of its outcome is shown. At the
prompt a client is kept from statement to statement until the connection is
lost, and closed when the session ends, in whatever way it ends.

Sessions model the modes of `Shell`.
-/
namespace SqlGuard

inductive Session
  | once (sql : String)
  | interactive (input : Input)
  deriving DecidableEq, Repr

namespace Session

open Act Screen

variable {κ σ : Type}

def target : String := "db_sqltool::shell"

/-- Shows the outcome of a statement. Models `report`. -/
def report : Execution → Act κ σ Unit
  | .success answer elapsed => say (outcome answer elapsed)
  | .rejected _ reason => say (rejectionNotice reason)
  | .failed fault => say (failure fault)

/-- The result of a session that ran one statement. -/
def settle (execution : Execution) : Act κ σ Unit :=
  match execution.fault? with
  | some fault => fail fault
  | none => done ()

/-- Runs one statement. A rejection or a fault is shown and then returned.
Models `run_once`. -/
def runOnce (s : Supplier κ σ) (e : Endpoint) (sql : String) : Act κ σ Unit :=
  match Policy.classify sql with
  | .rejected reason => do
    note .info target ("Rejected single-shot query: " ++ reason.text)
    say (rejectionNotice reason)
    fail (.rejected reason)
  | .admitted => do
    match ← connect s e with
    | .error fault =>
      say ("Error: " ++ fault.message)
      fail fault
    | .ok client =>
      let execution ← execute s client sql
      release s target client
      report execution
      settle execution

/-- Closes the client that is kept open, if there is one. Models `disconnect`.
-/
def disconnect (s : Supplier κ σ) : Act κ σ Unit := do
  match ← held with
  | none => done ()
  | some client =>
    hold none
    release s target client

/-- The client that is kept open, or else a new one. Models `session`. -/
def client (s : Supplier κ σ) (e : Endpoint) : Act κ σ (Except Fault κ) := do
  match ← held with
  | some client => done (.ok client)
  | none =>
    match ← connect s e with
    | .error fault => done (.error fault)
    | .ok client =>
      note .info target ("Connected to " ++ e.display)
      hold (some client)
      done (.ok client)

/-- Runs one statement at the prompt. Models `handle_query`. -/
def handleQuery (s : Supplier κ σ) (e : Endpoint) (sql : String) : Act κ σ Unit :=
  match Policy.classify sql with
  | .rejected reason => do
    note .info target ("Rejected interactive query: " ++ reason.text)
    say (rejectionNotice reason)
  | .admitted => do
    match ← client s e with
    | .error fault => say ("Error: " ++ fault.message)
    | .ok client =>
      let execution ← execute s client sql
      if execution.losesClient then
        note .warn target "Dropping session after connection failure"
        disconnect s
      report execution

/-- What comes after a line. -/
inductive Next
  | goOn
  | stop
  deriving DecidableEq, Repr

/-- Handles one line. Octets that are no text are never guessed at or sent.
Models a turn of `prompt_loop`. -/
def handleLine (s : Supplier κ σ) (e : Endpoint) (line : List UInt8) : Act κ σ Next :=
  match Text.Utf8.decodeString line with
  | .error malformed => do
    note .warn target ("Discarding input line: " ++ malformed.text)
    say ("Error: input line is not valid UTF-8 (" ++ malformed.text ++ ")")
    say ""
    done .goOn
  | .ok text =>
    match Command.ofLine text with
    | .blank => done .goOn
    | .leave => do
      say farewell
      done .stop
    | .help => do
      say help
      done .goOn
    | .query sql => do
      handleQuery s e sql
      say ""
      done .goOn

/-- Leaves when there is no more input. -/
def endInput : Ending → Act κ σ Unit
  | .exhausted => do
    note .debug target "End of input"
    say ""
    say farewell
  | .interrupted => do
    note .debug target "Interrupted at the prompt"
    say ""
    say farewell
  | .failed detail => fail (.io detail)

def showPrompt : Act κ σ Unit := do
  write prompt
  flush

/-- Prompts for one line after another and handles it. Models `prompt_loop`
behind its banner. -/
def converse (s : Supplier κ σ) (e : Endpoint) (ending : Ending) :
    List (List UInt8) → Act κ σ Unit
  | [] => do
    showPrompt
    endInput ending
  | line :: rest => do
    showPrompt
    match ← handleLine s e line with
    | .stop => done ()
    | .goOn => converse s e ending rest

/-- Answers line after line, and closes the client that is kept open however
that ends. Models `run_interactive`. -/
def runInteractive (s : Supplier κ σ) (e : Endpoint) (input : Input) : Act κ σ Unit :=
  (do
    say (banner e)
    converse s e input.ending input.lines).andThen (disconnect s)

def run (s : Supplier κ σ) (e : Endpoint) : Session → Act κ σ Unit
  | .once sql => runOnce s e sql
  | .interactive input => runInteractive s e input

/-- Runs sessions one after the other, each at its own terminal. -/
def runAll (s : Supplier κ σ) (e : Endpoint) :
    List (Session × Terminal) → σ → Option κ → List (Stage κ σ Unit)
  | [], _, _ => []
  | (session, terminal) :: rest, world, held =>
    let stage := session.run s e ⟨world, held, terminal⟩
    stage :: runAll s e rest stage.desk.world stage.desk.held

/-- The status of a session's result. -/
def exitCode (result : Except Fault Unit) : Nat :=
  match result with
  | .ok _ => 0
  | .error fault => fault.exitCode

end Session

end SqlGuard
