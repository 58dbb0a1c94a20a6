import SqlGuard.Program
import SqlGuard.Server.Network

/-!
# The command line program

Reads what a run depends on, runs it, and writes what it gives: the output, the
error stream and the log file. The whole input is read before a session at the
prompt begins. No network is within reach here, so every connection is refused.
-/
namespace SqlGuard

/-- What lies at a path of the disk. -/
def lookOnDisk (path : String) : IO Found := do
  try
    return .file (← IO.FS.readBinFile path).toList
  catch
    | .inappropriateType _ code _ => return if code = 21 then .directory else .nothing
    | _ => return .nothing

/-- The rest of a stream, in chunks. -/
partial def readChunks (stream : IO.FS.Stream) (chunks : List (List UInt8)) :
    IO (List (List UInt8)) := do
  let chunk ← stream.read 4096
  if chunk.isEmpty then return chunks.reverse else readChunks stream (chunk.toList :: chunks)

def readInput : IO Input := do
  let stream ← IO.getStdin
  try
    return ⟨← readChunks stream [], .exhausted⟩
  catch e => return ⟨[], .failed (toString e)⟩

/-- Makes an empty log file and the directories above it. -/
def openLog (e : Environment) : IO (Option Obstacle) := do
  try
    IO.FS.createDirAll (Places.logDirectory e)
    IO.FS.writeFile (Places.logFile e) ""
    return none
  catch fault =>
    match ← lookOnDisk (Places.logDirectory e), ← lookOnDisk (Places.logFile e), fault with
    | .file _, _, _ => return some .exists
    | _, .directory, _ => return some .isDirectory
    | .nothing, _, .alreadyExists .. => return some .notDirectory
    | _, _, _ => return some (.other (toString fault))

def readEnvironment : IO Environment := do
  let names := ["HOME", "XDG_CONFIG_HOME", "XDG_STATE_HOME", "TMPDIR", "SQLTOOL_CONFIG", "RUST_LOG"]
  let set ← names.filterMapM fun name => do return (← IO.getEnv name).map fun value => (name, value)
  return .ofLookup fun name => set.lookup name

/-- Everything that a run needs to know of its surroundings. -/
def readMachine (arguments : List String) : IO Machine := do
  let environment ← readEnvironment
  let beside := Places.below (toString (← IO.appDir)) "config.json"
  let blind : Machine :=
    { environment, beside := some beside, look := fun _ => .nothing, logObstacle := fun _ => none,
      input := ⟨[], .exhausted⟩, terminal := .unlimited }
  match Arguments.read arguments environment.profile with
  | .error _ => return blind
  | .ok invocation =>
    let candidates := match invocation.config with
      | some path => [path]
      | none => [beside, Places.standardProfile environment]
    let found ← candidates.mapM fun path => do return (path, ← lookOnDisk path)
    let machine := { blind with look := fun path => (found.lookup path).getD .nothing }
    if invocation.query.isSome then return machine
    let obstacle ← openLog environment
    let input ← readInput
    return { machine with logObstacle := fun _ => obstacle, input }

def writeRemark (stream : IO.FS.Stream) : Remark → IO Unit
  | .note n => stream.putStr (n.line ++ "\n")
  | .text s => stream.putStr s

/-- Writes what can be seen of a run. -/
def writeReport {σ : Type} (report : Report σ) : IO UInt32 := do
  let output ← IO.getStdout
  output.write ⟨report.output.toArray⟩
  output.flush
  let errors ← IO.getStderr
  report.errors.forM (writeRemark errors)
  match report.journal with
  | some (path, notes) => IO.FS.writeFile path (String.join (notes.map fun n => n.line ++ "\n"))
  | none => pure ()
  return .ofNat report.exitCode

end SqlGuard

def main (arguments : List String) : IO UInt32 := do
  let machine ← SqlGuard.readMachine arguments
  let unreachable : SqlGuard.Server.Network := ⟨SqlGuard.defaultPort, none, []⟩
  SqlGuard.writeReport (SqlGuard.Program.run SqlGuard.Server.network machine arguments unreachable)
