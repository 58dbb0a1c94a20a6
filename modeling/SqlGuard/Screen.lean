import SqlGuard.Endpoint
import SqlGuard.Fault
import SqlGuard.Grid

/-!
# What is shown on the screen

The texts of the prompt loop, and the text that tells the outcome of a
statement.
-/
namespace SqlGuard.Screen

open SqlGuard.Policy

def prompt : String := "SQL> "

def farewell : String := "Bye!"

def rule : String := String.ofList (List.replicate 80 '=')

/-- What the command `help` shows. Models `HELP_TEXT`. -/
def help : String :=
"Help:
-----
1. Type a SQL statement and press Enter to run it
2. Only read-only statements are accepted
3. Type 'exit' or 'quit' to leave
4. Type 'help' to show this message

Allowed statements:
  SELECT    - Query data
  SHOW      - List databases, tables, columns and server information
  DESCRIBE  - Show a table's structure
  DESC      - Short form of DESCRIBE
  EXPLAIN   - Show a query's execution plan
  USE       - Switch the current database

Refused statements:
  INSERT, UPDATE, DELETE  - Data changes
  DROP, CREATE, ALTER     - Schema changes
  TRUNCATE, RENAME        - Table operations
  GRANT, REVOKE           - Privilege changes
  and any other statement that could modify data or session state

Note: the check is a plain keyword scan over the whole statement, so a
forbidden word anywhere in the text, even inside a string literal or a
column name such as created_at, causes a rejection.

Examples:
  SELECT * FROM table_name LIMIT 10;
  SHOW TABLES;
  SHOW DATABASES;
  DESCRIBE table_name;
  SELECT COUNT(*) FROM table_name WHERE status = 'active';
  USE database_name;"

/-- The two lists of words of the policy. Models `policy_summary`. -/
def policySummary : String :=
  "  Allowed:   " ++ ", ".intercalate allowed ++ "\n  Forbidden: " ++ ", ".intercalate forbidden

/-- What a session begins with. Models `banner`. -/
def banner (e : Endpoint) : String :=
  rule ++ "\nsqltool - interactive mode (read-only)\n" ++ rule ++ "\n" ++
  "Target: " ++ e.host ++ ":" ++ toString e.port.toNat ++ "\n\n" ++
  "Read-only policy:\n" ++ policySummary ++ "\n\n" ++
  "Type 'exit' or 'quit' to leave, 'help' for help\n" ++ rule ++ "\n"

/-- What is shown in place of a rejected statement's answer. Models
`rejection_notice`. -/
def rejectionNotice (reason : Rejection) : String :=
  "Rejected: " ++ reason.text ++ "\n" ++ rule ++ "\nThis tool only runs read-only queries.\n" ++
  policySummary ++ "\n" ++ rule

def plural (count : Nat) : String := if count = 1 then "" else "s"

/-- The text of an answer that took some time: the number of changed rows, the
note that there are no rows, or the grid and the number of its rows. Models
`format_result`. -/
def outcome (a : Answer) (elapsed : Elapsed) : String :=
  let time := toString elapsed.millis ++ "ms)"
  if a.isCommand then
    "Command executed successfully (" ++ toString a.affected ++ " row" ++ plural a.affected ++
      " affected, " ++ time
  else if a.isEmpty then
    if a.columns.isEmpty then "Query OK, but no rows were returned (" ++ time
    else "Query OK, but no rows were returned (columns: " ++ ", ".intercalate a.columnNames ++
      ") (" ++ time
  else
    Grid.render a ++ "\n" ++ toString a.rowCount ++ " row" ++ plural a.rowCount ++ " returned (" ++
      time

/-- The text of a fault that ended a statement, as `report` prints it. -/
def failure : Fault → String
  | .internal detail => "Unexpected error: " ++ detail
  | fault => "Error: " ++ fault.message

end SqlGuard.Screen
