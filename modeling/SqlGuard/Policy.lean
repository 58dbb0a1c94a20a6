import SqlGuard.Text.Blank
import SqlGuard.Text.Letters

/-!
# The read-only policy

`classify` decides from the text of a statement alone whether it may run. The
text, in capitals and without blanks around it, has to begin with one of the
`allowed` words and must not contain any of the `forbidden` ones anywhere, not
even inside a literal or a name.

The policy models `AdmissionFilter`, whose tables `ALLOWED_PREFIXES` and
`FORBIDDEN_KEYWORDS` are `allowed` and `forbidden`, and whose `Classification`
is a `Verdict`.
-/
namespace SqlGuard.Policy

open SqlGuard.Text

/-- The words that a statement may begin with. -/
def allowed : List String := ["SELECT", "SHOW", "DESCRIBE", "DESC", "EXPLAIN", "USE"]

/-- The words that may stand nowhere in a statement. The first one found is
the one reported. -/
def forbidden : List String :=
  ["INSERT", "UPDATE", "DELETE", "DROP", "CREATE", "ALTER", "TRUNCATE", "RENAME", "REPLACE",
   "GRANT", "REVOKE", "LOCK", "UNLOCK", "SET", "COMMIT", "ROLLBACK", "START", "LOAD", "IMPORT",
   "CALL", "EXECUTE", "PREPARE"]

/-- Why a statement may not run. -/
inductive Rejection
  /-- It does not begin with an allowed word. -/
  | notReadOnly (found : Option String)
  /-- It begins well, but contains a forbidden word. -/
  | forbiddenKeyword (keyword : String)
  deriving DecidableEq, Repr

/-- The forbidden word that the statement contains. Models `keyword` of
`Rejection`. -/
def Rejection.keyword : Rejection → Option String
  | .notReadOnly found => found
  | .forbiddenKeyword keyword => some keyword

/-- The reason as it is displayed. -/
def Rejection.text : Rejection → String
  | .notReadOnly found =>
    "only read-only statements are permitted (" ++ ", ".intercalate allowed ++ ")" ++
      match found with
      | some keyword => "; statement contains forbidden keyword " ++ keyword
      | none => ""
  | .forbiddenKeyword keyword => "statement contains forbidden keyword " ++ keyword

inductive Verdict
  | admitted
  | rejected (reason : Rejection)
  deriving DecidableEq, Repr

/-- The text that the policy looks at. -/
def normalized (sql : String) : List Char := capitals (trim sql.toList)

def beginsAllowed (text : List Char) : Bool :=
  allowed.any fun word => word.toList.isPrefixOf text

def firstForbidden (text : List Char) : Option String :=
  forbidden.find? fun word => occursIn word.toList text

/-- The verdict on a statement. Models `classify` of `AdmissionFilter`. -/
def classify (sql : String) : Verdict :=
  let text := normalized sql
  if beginsAllowed text then
    match firstForbidden text with
    | some keyword => .rejected (.forbiddenKeyword keyword)
    | none => .admitted
  else .rejected (.notReadOnly (firstForbidden text))

end SqlGuard.Policy
