import SqlGuard.ConnectionString.Address
import SqlGuard.Text.Letters

/-!
# Hosts

The host of a database is taken as it is written, except that it must not hold
certain characters. The host of a scheme of the web has to be a valid name or
address.
-/
namespace SqlGuard.ConnectionString

/-- Why a text is no connection string. -/
inductive Flaw
  | noScheme
  | emptyHost
  | invalidPort
  | invalidAddress4
  | invalidAddress6
  | invalidHostCharacter
  | invalidName
  | wrongScheme (scheme : String)
  deriving DecidableEq, Repr

def Flaw.message : Flaw → String
  | .noScheme => "Invalid connection string: relative URL without a base"
  | .emptyHost => "Invalid connection string: empty host"
  | .invalidPort => "Invalid connection string: invalid port number"
  | .invalidAddress4 => "Invalid connection string: invalid IPv4 address"
  | .invalidAddress6 => "Invalid connection string: invalid IPv6 address"
  | .invalidHostCharacter => "Invalid connection string: invalid domain character"
  | .invalidName => "Invalid connection string: invalid international domain name"
  | .wrongScheme scheme =>
    "Invalid scheme '" ++ scheme ++ "'. Expected 'mysql' or 'mariadb'"

/-- Characters that no host can hold. -/
def forbiddenInHost : List Char :=
  ['\x00', '\t', '\n', '\r', ' ', '#', '/', ':', '<', '>', '?', '@', '[', '\\', ']', '^', '|']

/-- An address in brackets. -/
def readBracketed (inside : List Char) : Except Flaw (List Char) :=
  if inside.getLast? = some ']' then
    match readAddress6 inside.dropLast with
    | some pieces => .ok ('[' :: (address6Text pieces ++ [']']))
    | none => .error .invalidAddress6
  else .error .invalidAddress6

/-- The host of a database, which may be missing. -/
def readHost : List Char → Except Flaw (List Char)
  | '[' :: inside => readBracketed inside
  | s =>
    if s.any forbiddenInHost.contains then .error .invalidHostCharacter
    else .ok (percentEncode keptInHost s)

/-- Characters that a name on the web cannot hold. -/
def forbiddenInName (c : Char) : Bool :=
  c.toNat ≤ 0x20 || c.toNat = 0x7F || forbiddenInHost.contains c || c = '%'

/-- The form in which a character of a name is looked at: wide forms of ASCII
characters are narrowed, ideographic points are points, and invisible
characters vanish. -/
def foldedForName (c : Char) : List Char :=
  let code := c.toNat
  if code = 0x3002 ∨ code = 0xFF61 then ['.']
  else if 0xFF01 ≤ code ∧ code ≤ 0xFF5E then [Text.asciiSmall (Char.ofNat (code - 0xFEE0))]
  else if code = 0xAD ∨ code = 0x34F ∨ code = 0x200B ∨ code = 0x2060 ∨ code = 0xFEFF ∨
      (0xFE00 ≤ code ∧ code ≤ 0xFE0F) then []
  else [Text.asciiSmall c]

/-- Whether a host of a scheme of the web is valid. -/
def checkWebHost : List Char → Except Flaw Unit
  | '[' :: inside => (readBracketed inside).map fun _ => ()
  | s =>
    match Text.Utf8.decode (percentDecode s) with
    | .error _ => .error .invalidName
    | .ok text =>
      let name := text.flatMap foldedForName
      if name.any forbiddenInName || name.contains '\ufffd' then .error .invalidName
      else if name = [] then .error .emptyHost
      else if isAddress4Like name && (readAddress4 name).isNone then .error .invalidAddress4
      else .ok ()

end SqlGuard.ConnectionString
