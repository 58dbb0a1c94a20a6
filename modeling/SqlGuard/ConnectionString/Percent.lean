import SqlGuard.Text.Utf8

/-!
# Percent-encoding

A character that a part of a connection string cannot hold is written as its
UTF-8 octets, each as a percent sign and two digits. Which characters those are
depends on the part. `enc` writes everything but letters, digits and four marks
in this way.
-/
namespace SqlGuard.ConnectionString

/-- A hexadecimal digit, in capitals. -/
def hexDigit (n : Nat) : Char := if n < 10 then Char.ofNat (48 + n) else Char.ofNat (55 + n)

def percentOctet (b : UInt8) : List Char :=
  ['%', hexDigit (b.toNat / 16), hexDigit (b.toNat % 16)]

/-- The octets of a character, each behind a percent sign. -/
def percentChar (c : Char) : List Char := (String.utf8EncodeChar c).flatMap percentOctet

/-- Encodes the characters that are not kept. -/
def percentEncode (kept : Char → Bool) (s : List Char) : List Char :=
  s.flatMap fun c => if kept c then [c] else percentChar c

/-- Printable ASCII characters. -/
def isPlain (c : Char) : Bool := 0x20 ≤ c.toNat && c.toNat < 0x7F

/-- Kept in a host that is not resolved. -/
def keptInHost (c : Char) : Bool := isPlain c

/-- Kept in a path. -/
def keptInPath (c : Char) : Bool :=
  isPlain c && c ∉ [' ', '"', '#', '<', '>', '?', '\x60', '\x7b', '\x7d']

/-- Kept in the name and the password of a user. -/
def keptInUser (c : Char) : Bool :=
  keptInPath c && c ∉ ['/', ':', ';', '=', '@', '[', '\\', ']', '^', '|']

/-- Kept wherever it stands. -/
def isUnreserved (c : Char) : Bool := c.isAlphanum || ['-', '.', '_', '~'].contains c

/-- Writes a text so that it can stand in any part of a connection string. -/
def enc (s : String) : String := String.ofList (percentEncode isUnreserved s.toList)

/-- The value of a hexadecimal digit. -/
def hexValue (c : Char) : Option Nat :=
  if '0' ≤ c ∧ c ≤ '9' then some (c.toNat - 48)
  else if 'a' ≤ c ∧ c ≤ 'f' then some (c.toNat - 87)
  else if 'A' ≤ c ∧ c ≤ 'F' then some (c.toNat - 55)
  else none

/-- The octets of a text, with those behind percent signs read. A percent sign
without two digits stands for itself. -/
def percentDecode : List Char → List UInt8
  | [] => []
  | '%' :: a :: b :: rest =>
    match hexValue a, hexValue b with
    | some high, some low => .ofNat (16 * high + low) :: percentDecode rest
    | _, _ => 37 :: percentDecode (a :: b :: rest)
  | c :: rest => String.utf8EncodeChar c ++ percentDecode rest

end SqlGuard.ConnectionString
