import SqlGuard.Endpoint
import SqlGuard.Number.Written
import SqlGuard.Text.Quoted

/-!
# What a profile says

A profile is a file that describes an endpoint by named settings, in one of two
formats. The formats share the rule about the settings: a `Draft` takes one
setting after the other, and `Draft.endpoint` completes it. Names without a
meaning are passed over.

The fields, and which of them may be missing, are those of `ConnectionConfig`.
-/
namespace SqlGuard.Profile

/-- The value of a setting, as far as it matters here. -/
inductive Setting
  | null
  | bool (b : Bool)
  | integer (n : Int)
  | float (x : Binary64)
  | text (s : String)
  | sequence
  | map
  deriving DecidableEq, Repr

/-- What a value is called in the text of a fault. The formats write floating
point numbers in different ways. -/
def Setting.describe (writeFloat : Binary64 → String) : Setting → String
  | .null => "null"
  | .bool b => "boolean `" ++ (if b then "true" else "false") ++ "`"
  | .integer n => "integer `" ++ toString n ++ "`"
  | .float x => "floating point `" ++ writeFloat x ++ "`"
  | .text s => "string " ++ Text.quoted s
  | .sequence => "sequence"
  | .map => "map"

/-- The settings with a meaning. -/
inductive Field
  | host
  | port
  | user
  | password
  | database
  deriving DecidableEq, Repr

namespace Field

def name : Field → String
  | host => "host"
  | port => "port"
  | user => "user"
  | password => "password"
  | database => "database"

/-- All fields, in the order in which a list of values gives them. -/
def all : List Field := [host, port, user, password, database]

def ofName (key : String) : Option Field := all.find? fun f => f.name = key

/-- What the value of a field has to be. -/
def expectation : Field → String
  | port => "u16"
  | _ => "a string"

end Field

/-- What is wrong with settings. -/
inductive Unfit
  | wrongType (found : Setting) (expected : String)
  | outOfRange (n : Int) (expected : String)
  | duplicate (field : Field)
  | missing (field : Field)
  | tooShort (length : Nat)
  deriving DecidableEq, Repr

/-- What an endpoint is called in the text of a fault. -/
def endpointName : String := "struct ConnectionConfig"

def Unfit.text (writeFloat : Binary64 → String) : Unfit → String
  | .wrongType found expected =>
    "invalid type: " ++ found.describe writeFloat ++ ", expected " ++ expected
  | .outOfRange n expected =>
    "invalid value: integer `" ++ toString n ++ "`, expected " ++ expected
  | .duplicate field => "duplicate field `" ++ field.name ++ "`"
  | .missing field => "missing field `" ++ field.name ++ "`"
  | .tooShort length =>
    "invalid length " ++ toString length ++ ", expected " ++ endpointName ++ " with 5 elements"

/-- The fields set so far. -/
structure Draft where
  host : Option String
  port : Option UInt16
  user : Option String
  password : Option String
  database : Option String
  deriving DecidableEq, Repr

namespace Draft

def empty : Draft := ⟨none, none, none, none, none⟩

def has (d : Draft) : Field → Bool
  | .host => d.host.isSome
  | .port => d.port.isSome
  | .user => d.user.isSome
  | .password => d.password.isSome
  | .database => d.database.isSome

/-- The text of a setting. -/
def textOf (s : Setting) (field : Field) : Except Unfit String :=
  match s with
  | .text t => .ok t
  | _ => .error (.wrongType s field.expectation)

/-- The port of a setting. -/
def portOf (s : Setting) : Except Unfit UInt16 :=
  match s with
  | .integer n =>
    if 0 ≤ n ∧ n ≤ 65535 then .ok (.ofNat n.toNat)
    else .error (.outOfRange n Field.port.expectation)
  | _ => .error (.wrongType s Field.port.expectation)

/-- Sets a field to the value of a setting. -/
def set (d : Draft) (field : Field) (s : Setting) : Except Unfit Draft :=
  match field with
  | .port => (portOf s).map fun port => { d with port := some port }
  | .host => (textOf s .host).map fun t => { d with host := some t }
  | .user => (textOf s .user).map fun t => { d with user := some t }
  | .password => (textOf s .password).map fun t => { d with password := some t }
  | .database => (textOf s .database).map fun t => { d with database := some t }

/-- Takes a named setting. -/
def add (d : Draft) (entry : String × Setting) : Except Unfit Draft :=
  match Field.ofName entry.1 with
  | none => .ok d
  | some field => if d.has field then .error (.duplicate field) else d.set field entry.2

/-- The endpoint of a draft that names a host and a user. -/
def endpoint (d : Draft) : Except Unfit Endpoint :=
  match d.host, d.user with
  | none, _ => .error (.missing .host)
  | _, none => .error (.missing .user)
  | some host, some user =>
    .ok ⟨host, d.port.getD defaultPort, user, d.password.getD "", d.database.getD ""⟩

end Draft

/-- The endpoint that a list of named settings describes. -/
def ofEntries (entries : List (String × Setting)) : Except Unfit Endpoint := do
  let d ← entries.foldlM Draft.add Draft.empty
  d.endpoint

end SqlGuard.Profile
