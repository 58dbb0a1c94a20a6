import SqlGuard.Server.Cell
import SqlGuard.Server.Script
import SqlGuard.Supplier

/-!
# A client's connection to a server

A `Link` is one connection with what the server still has to say on it, what
the client knows about it, and the server's record of what it was asked.
`execute` and `close` are the requests of a client. Only the first result of a
reply is shown; if it has no rows, the server is asked to describe the
statement. A closed link sends nothing any more.

A link models `MySqlClient` together with the server's end of its connection.
-/
namespace SqlGuard.Server

open SqlGuard.Text

structure Link where
  /-- The client has not closed the connection. -/
  isOpen : Bool
  /-- The server has not ended the connection. -/
  alive : Bool
  statements : List StatementScript
  /-- The statement under way, for its description. -/
  current : StatementScript
  /-- Descriptions the client remembers, the latest first. -/
  described : List (String × List Column)
  record : List String

namespace Link

def target : String := "db_sqltool::db::mysql"

def noteOf (level : Level) (text : String) : Note := ⟨level, target, text⟩

/-- The server keeps a record as long as it has not ended the connection. -/
def recorded (l : Link) (entry : String) : Link :=
  if l.alive then { l with record := l.record ++ [entry] } else l

/-- After a breakdown that ended the connection, it is dead. -/
def after (l : Link) (b : Breakdown) : Link := { l with alive := l.alive && !b.ends }

/-- A statement goes out, and its reply comes in. -/
def send (l : Link) (sql : String) : Except Breakdown (List ResultSet) × Link :=
  if l.alive then
    let (script, rest) := match l.statements with
      | [] => (StatementScript.plain, [])
      | script :: rest => (script, rest)
    let l := { l.recorded ("query " ++ sql) with statements := rest, current := script }
    match readReply script.reply with
    | .ok results => (.ok results, l)
    | .error b => (.error b, l.after b)
  else (.error (ended .connectionEnded), l)

/-- A client remembers that many descriptions. -/
def capacity : Nat := 100

/-- The columns of a statement: remembered, or else asked for. Models
`describe_columns`. -/
def describe (l : Link) (sql : String) : Except Breakdown (List Column) × Link :=
  match l.described.lookup sql with
  | some columns =>
    let others := l.described.filter (·.1 ≠ sql)
    (.ok columns, { l with described := (sql, columns) :: others })
  | none =>
    if l.alive then
      let l := l.recorded ("prepare " ++ sql)
      match readDescription l.current.description with
      | .ok columns =>
        (.ok columns, { l with described := ((sql, columns) :: l.described).take capacity })
      | .error b => (.error b, l.after b)
    else (.error (ended .connectionEnded), l)

/-- The words that begin a statement with rows. Models `ROW_PRODUCING`. -/
def rowProducing : List String := ["SELECT", "SHOW", "DESC", "EXPLAIN"]

/-- The statement begins with a word that asks for rows. Models `yields_rows`.
-/
def yieldsRows (sql : String) : Bool :=
  let text := capitals (trimStart sql.toList)
  rowProducing.any fun word => word.toList.isPrefixOf text

/-- The answer to a statement whose first result has no rows. A statement that
cannot be described is known by its first word. Models `rowless_result`. -/
def rowlessAnswer (sql : String) (described : Option (List Column)) (affected : Nat) : Answer :=
  match described with
  | some [] => .command affected
  | some columns => .table columns []
  | none => if yieldsRows sql then .table [] [] else .command affected

/-- The answer that the first result gives. -/
def answerOf (sql : String) (first : ResultSet) (described : Option (List Column)) : Answer :=
  let answer :=
    if first.rows.isEmpty then rowlessAnswer sql described first.affected
    else .table first.columns (first.rows.map (readRow first.columns))
  { answer with affected := first.affected }

def resultsNote (results : List ResultSet) : List Note :=
  if 1 < results.length then
    [noteOf .warn ("Statement produced " ++ toString results.length ++
      " result sets; only the first is shown")]
  else []

def returnedNote (answer : Answer) (elapsed : Elapsed) : Note :=
  noteOf .debug ("Query returned " ++ toString answer.rowCount ++ " rows and " ++
    toString answer.columns.length ++ " columns in " ++
    toString (elapsed.secs * 1000000000 + elapsed.nanos) ++ "ns")

/-- The description of a statement whose first result has no rows. -/
def describeRowless (l : Link) (sql : String) (first : ResultSet) :
    Option (List Column) × List Note × Link :=
  if first.rows.isEmpty then
    match l.describe sql with
    | (.ok columns, l) => (some columns, [], l)
    | (.error b, l) =>
      (none, [noteOf .debug ("Statement cannot be described: " ++ b.failure.text)], l)
  else (none, [], l)

/-- A reply without any result has changed nothing. -/
def firstOf (results : List ResultSet) : ResultSet := results.head?.getD ⟨0, [], []⟩

/-- Sends a statement and makes an answer of its reply. Models `execute_query`
of `MySqlClient`. -/
def execute (sql : String) (l : Link) : Reply Link Answer :=
  if l.isOpen then
    match l.send sql with
    | (.error b, l) => ⟨.error b.failure.whileExecuting, [], l⟩
    | (.ok results, l) =>
      let first := firstOf results
      let (described, notes, l) := l.describeRowless sql first
      let answer := answerOf sql first described
      ⟨.ok answer, resultsNote results ++ notes ++ [returnedNote answer .zero], l⟩
  else ⟨.error (.connection "Connection is closed"), [], l⟩

/-- How a driver ends a connection, and whether that works. -/
abbrev Goodbye := Link → Except Failure Unit × Link

/-- The server is told that the client leaves. -/
def quit : Goodbye := fun l => (.ok (), l.recorded "quit")

/-- The client gives its link up before the goodbye, so it has none even if that
fails. Models `close` of `MySqlClient`. -/
def closeWith (goodbye : Goodbye) (l : Link) : Reply Link Unit :=
  if l.isOpen then
    match goodbye l with
    | (.ok (), l) => ⟨.ok (), [noteOf .debug "Connection closed"], { l with isOpen := false }⟩
    | (.error failure, l) => ⟨.error (.connection failure.text), [], { l with isOpen := false }⟩
  else ⟨.ok (), [], l⟩

def close : Link → Reply Link Unit := closeWith quit

/-- The client goes away without a word. -/
def abandon (l : Link) : Link :=
  if l.isOpen then { l.recorded "eof" with isOpen := false } else l

end Link

end SqlGuard.Server
