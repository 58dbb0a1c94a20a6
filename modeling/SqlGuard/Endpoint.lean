/-!
# Where to connect, and as whom

An `Endpoint` is a complete description of a connection. `Overrides` set some of
its fields; layers of them combine with `orElse`, the earlier layer winning.

They model `ConnectionConfig` and `ConnectionOverrides`.
-/
namespace SqlGuard

/-- The character set of every connection. -/
def charset : String := "utf8mb4"

def defaultPort : UInt16 := 3306

structure Endpoint where
  host : String
  port : UInt16
  user : String
  password : String
  database : String
  deriving DecidableEq, Repr

structure Overrides where
  host : Option String
  port : Option UInt16
  user : Option String
  password : Option String
  database : Option String
  deriving DecidableEq, Repr

namespace Endpoint

/-- The superuser of this machine's server, without a password. The default of a
`ConnectionConfig`. -/
def standard : Endpoint := ⟨"localhost", defaultPort, "root", "", ""⟩

/-- The database to select; an empty name selects none. Models `database`. -/
def selected (e : Endpoint) : Option String := if e.database = "" then none else some e.database

/-- A description that does not contain the password. Models `display_string`.
-/
def display (e : Endpoint) : String :=
  e.user ++ "@" ++ e.host ++ ":" ++ toString e.port.toNat ++
    match e.selected with
    | some database => "/" ++ database
    | none => ""

/-- Every set field replaces the endpoint's value. Models `apply` of
`ConnectionConfig`. -/
def apply (e : Endpoint) (o : Overrides) : Endpoint where
  host := o.host.getD e.host
  port := o.port.getD e.port
  user := o.user.getD e.user
  password := o.password.getD e.password
  database := o.database.getD e.database

end Endpoint

namespace Overrides

def none : Overrides := ⟨.none, .none, .none, .none, .none⟩

/-- Fields that are not set are filled from another layer. Models `or` of
`ConnectionOverrides`. -/
def orElse (a b : Overrides) : Overrides where
  host := a.host <|> b.host
  port := a.port <|> b.port
  user := a.user <|> b.user
  password := a.password <|> b.password
  database := a.database <|> b.database

def isEmpty (o : Overrides) : Bool := o = none

end Overrides

end SqlGuard
