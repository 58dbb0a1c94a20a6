import SqlGuard.Note

/-!
# Where files are

The places of the profile and of the log, from what the environment says. A
directory named by the environment counts only if its path is absolute; else
it is found under the home directory.
-/
namespace SqlGuard

/-- The variables that matter, as far as they are set. -/
structure Environment where
  home : Option String
  configHome : Option String
  stateHome : Option String
  temporary : Option String
  /-- The path of a profile. -/
  profile : Option String
  /-- Which notes are written. -/
  log : Option String
  deriving DecidableEq, Repr

/-- Reads the variables by their names. -/
def Environment.ofLookup (lookup : String → Option String) : Environment where
  home := lookup "HOME"
  configHome := lookup "XDG_CONFIG_HOME"
  stateHome := lookup "XDG_STATE_HOME"
  temporary := lookup "TMPDIR"
  profile := lookup "SQLTOOL_CONFIG"
  log := lookup "RUST_LOG"

namespace Places

def isAbsolute (path : String) : Bool := path.toList.head? = some '/'

/-- A name below a directory. -/
def below (directory name : String) : String :=
  if directory = "" ∨ directory.toList.getLast? = some '/' then directory ++ name
  else directory ++ "/" ++ name

/-- A home directory without a name is none. -/
def home (e : Environment) : Option String := e.home.filter (· ≠ "")

def configDirectory (e : Environment) : Option String :=
  e.configHome.filter isAbsolute <|> (home e).map (below · ".config")

def stateDirectory (e : Environment) : Option String :=
  e.stateHome.filter isAbsolute <|> (home e).map fun home => below (below home ".local") "state"

/-- The profile that is used when no other one is named or found. Models
`default_path`. -/
def standardProfile (e : Environment) : String :=
  below (below ((configDirectory e).getD ".") "sqltool") "config.toml"

/-- A named profile comes first, then one that lies beside the program. Models
`resolve_path`. -/
def profile (e : Environment) (named beside : Option String) : String :=
  (named <|> beside).getD (standardProfile e)

/-- The directory of the log. -/
def logDirectory (e : Environment) : String :=
  match stateDirectory e <|> configDirectory e with
  | some directory => below directory "sqltool"
  | none => e.temporary.getD "/tmp"

/-- The file that notes are written to. Models `log_file_path`. -/
def logFile (e : Environment) : String := below (logDirectory e) "sqltool.log"

end Places

/-- Where notes are written. Models `LogSink`. -/
inductive Sink
  | errors
  | file (path : String)
  deriving DecidableEq, Repr

namespace Sink

/-- A single statement leaves the screen to its answer and writes notes among
the errors. A prompt shares the screen with them, so there they go to a file.
Models `for_run`. -/
def ofRun (single : Bool) (e : Environment) : Sink :=
  if single then errors else file (Places.logFile e)

/-- The level down to which notes are written if nothing else is asked for.
Models `default_level`. -/
def standardLevel : Sink → Level
  | errors => .warn
  | file _ => .info

end Sink

end SqlGuard
