import SqlGuard.Arguments.Read
import SqlGuard.Journal
import SqlGuard.Profile.Load
import SqlGuard.Session.Run

/-!
# The program

A run reads its arguments, loads a profile, lays the overrides over it, and
holds one session with it: a single statement if there are words for one, and
the prompt otherwise. `Program.run` gives everything that can be seen of it.
-/
namespace SqlGuard

/-- What a run finds around it. -/
structure Machine where
  environment : Environment
  /-- The path of a profile beside the program. It counts if it is a file. -/
  beside : Option String
  look : String → Found
  /-- Why a log file cannot be made at a path, if so. -/
  logObstacle : String → Option Obstacle
  input : Input
  terminal : Terminal

/-- What is written beside the output. -/
inductive Remark
  | note (n : Note)
  | text (s : String)
  deriving DecidableEq, Repr

/-- What can be seen of a run. -/
structure Report (σ : Type) where
  exitCode : Nat
  output : List UInt8
  /-- What is written to the error stream. -/
  errors : List Remark
  /-- The log file and the notes in it, if one was made. -/
  journal : Option (String × List Note)
  world : σ

namespace Program

def target : String := "sqltool"

def faultNote (f : Fault) : Note := ⟨.error, target, f.category ++ ": " ++ f.message⟩

/-- The profile of a run. -/
def profile (m : Machine) (i : Invocation) : String :=
  let beside := m.beside.filter fun path =>
    match m.look path with
    | .file _ => true
    | _ => false
  Places.profile m.environment i.config beside

/-- The profile with the overrides laid over it. Models `load_config`. -/
def endpoint (m : Machine) (i : Invocation) : Except Fault Endpoint := do
  let e ← Profile.load (profile m i) (m.look (profile m i))
  let o ← i.overrides
  .ok (e.apply o)

/-- The only session of a run. -/
def session (m : Machine) (i : Invocation) : Session :=
  match i.query with
  | some sql => .once sql
  | none => .interactive m.input

/-- A run that has come to its session, or to the fault that prevents it. -/
structure Course (σ : Type) where
  result : Except Fault Unit
  output : List UInt8
  remarks : List Remark
  world : σ

/-- A fault that prevents the session is shown. -/
def prevented {σ : Type} (f : Fault) (world : σ) : Course σ :=
  ⟨.error f, [], [.note (faultNote f), .text (f.message ++ "\n")], world⟩

/-- The session has already shown its faults, except those of the terminal. -/
def closing : Except Fault Unit → List Remark
  | .ok _ => []
  | .error f => .note (faultNote f) :: (if f.isIo then [.text (f.message ++ "\n")] else [])

def held {κ σ : Type} (s : Supplier κ σ) (m : Machine) (i : Invocation) (e : Endpoint)
    (world : σ) : Course σ :=
  let stage := (session m i).run s e ⟨world, none, m.terminal⟩
  ⟨stage.result, stage.events.flatMap (·.octets),
    (stage.events.filterMap (·.note?)).map .note ++ closing stage.result, stage.desk.world⟩

def course {κ σ : Type} (s : Supplier κ σ) (m : Machine) (i : Invocation) (world : σ) :
    Course σ :=
  let rest := match endpoint m i with
    | .error f => prevented f world
    | .ok e => held s m i e world
  { rest with
    remarks := .note ⟨.info, target, "Loading config from: " ++ profile m i⟩ :: rest.remarks }

/-- What is said when the log file cannot be made. -/
def warning (path : String) (o : Obstacle) : String :=
  "Warning: logging disabled, cannot open " ++ path ++ ": " ++ o.text ++ "\n"

def isText : Remark → Bool
  | .text _ => true
  | .note _ => false

/-- The notes among some remarks that a filter lets through. -/
def notes (f : Filter) (remarks : List Remark) : List Note :=
  (remarks.filterMap fun
    | .note n => some n
    | .text _ => none).filter f.admits

/-- Distributes the remarks of a run to the error stream and the log file. -/
def report {σ : Type} (m : Machine) (sink : Sink) (c : Course σ) : Report σ :=
  let filter := Filter.ofEnvironment m.environment sink
  let code := Session.exitCode c.result
  match sink with
  | .errors =>
    let errors := c.remarks.filter fun
      | .note n => filter.admits n
      | .text _ => true
    ⟨code, c.output, errors, none, c.world⟩
  | .file path =>
    let texts := c.remarks.filter isText
    match m.logObstacle path with
    | some o => ⟨code, c.output, .text (warning path o) :: texts, none, c.world⟩
    | none => ⟨code, c.output, texts, some (path, notes filter c.remarks), c.world⟩

/-- A text in place of a run. -/
def departed {σ : Type} (m : Machine) (d : Arguments.Departure) (world : σ) : Report σ :=
  let text := d.text m.environment.profile
  match d with
  | .inquiry _ =>
    ⟨d.exitCode, m.terminal.accepted (Text.Utf8.encodeString text), [], none, world⟩
  | .misuse _ => ⟨d.exitCode, [], [.text text], none, world⟩

/-- All that can be seen of a call with some arguments. Models `main`. -/
def run {κ σ : Type} (s : Supplier κ σ) (m : Machine) (arguments : List String) (world : σ) :
    Report σ :=
  match Arguments.read arguments m.environment.profile with
  | .error d => departed m d world
  | .ok i => report m (Sink.ofRun i.query.isSome m.environment) (course s m i world)

end Program

end SqlGuard
