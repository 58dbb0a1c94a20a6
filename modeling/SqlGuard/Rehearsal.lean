import SqlGuard.Supplier

/-!
# Suppliers for rehearsal

Suppliers that answer from a table, always fail, refuse every connection, or
follow a script, so that a session can be tried out without a server.

The first three model the kinds of a `MockConnector`. A script stands for any
other connector, call by call.
-/
namespace SqlGuard.Rehearsal

open SqlGuard.Text

def quietly {σ α : Type} (result : Except Fault α) (state : σ) : Reply σ α := ⟨result, [], state⟩

/-! ## Answers from a table -/

/-- The words that ask for rows, as far as the table of answers knows. -/
def projecting : List String := ["SELECT", "SHOW", "DESC", "EXPLAIN"]

def asksForRows (sql : String) : Bool :=
  let text := capitals (trim sql.toList)
  projecting.any fun word => word.toList.isPrefixOf text

/-- The answer to a statement that the table does not list. It takes a
millisecond. Models `default_response`. -/
def defaultAnswer (sql : String) : Answer :=
  let answer : Answer :=
    if asksForRows sql then
      .table [⟨"result", "TEXT"⟩] [[.string ("Mock result for: " ++ sql)]]
    else .command 0
  { answer with elapsed := .ofMillis 1 }

/-- The last entry for a statement counts. -/
def lookUp (table : List (String × Except Fault Answer)) (sql : String) : Except Fault Answer :=
  (table.reverse.lookup sql).getD (.ok (defaultAnswer sql))

/-- Every client answers from the same table. Models `MockDatabaseClient`. -/
def answering (table : List (String × Except Fault Answer)) : Supplier Unit Unit where
  connect _ := quietly (.ok ())
  execute _ sql := quietly (lookUp table sql)
  close _ := quietly (.ok ())
  duration _ _ _ := .zero

/-! ## Failures -/

/-- Every statement fails. Models `FailingDatabaseClient`. -/
def failing (fault : Fault) : Supplier Unit Unit where
  connect _ := quietly (.ok ())
  execute _ _ := quietly (.error fault)
  close _ := quietly (.ok ())
  duration _ _ _ := .zero

/-- Every connection is refused. Models `refusing` of `MockConnector`. -/
def refusing (fault : Fault) : Supplier Unit Unit where
  connect _ := quietly (.error fault)
  execute _ _ := quietly (.error fault)
  close _ := quietly (.ok ())
  duration _ _ _ := .zero

/-! ## Scripts -/

/-- What a client answers to its statements, and to being closed. -/
structure Script where
  replies : List (Except Fault Answer)
  closing : Except Fault Unit

/-- The connects still to come, and the clients opened so far. -/
structure Stand where
  connects : List (Except Fault Script)
  clients : List Script

def noMoreConnections : Fault := .connection "no more connections"

def noMoreReplies : Fault := .query "no more replies"

def Stand.open (st : Stand) : Reply Stand Nat :=
  match st.connects with
  | [] => quietly (.error noMoreConnections) st
  | .error fault :: rest => quietly (.error fault) { st with connects := rest }
  | .ok script :: rest => quietly (.ok st.clients.length) ⟨rest, st.clients ++ [script]⟩

def Stand.reply (st : Stand) (client : Nat) : Reply Stand Answer :=
  match st.clients[client]? with
  | some ⟨reply :: rest, closing⟩ =>
    quietly reply { st with clients := st.clients.set client ⟨rest, closing⟩ }
  | _ => quietly (.error noMoreReplies) st

def Stand.close (st : Stand) (client : Nat) : Reply Stand Unit :=
  match st.clients[client]? with
  | some script => quietly script.closing st
  | none => quietly (.ok ()) st

/-- Every connect takes the next entry of the script. -/
def scripted : Supplier Nat Stand where
  connect _ st := st.open
  execute client _ st := st.reply client
  close client st := st.close client
  duration _ _ _ := .zero

end SqlGuard.Rehearsal
