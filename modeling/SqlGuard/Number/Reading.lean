import SqlGuard.Number.Binary64
import SqlGuard.Text.Letters

/-!
# Reading numbers from text

`readSigned` and `readUnsigned` accept exactly the decimal texts of 64-bit
integers: an optional sign and at least one digit, leading zeros included, and
nothing around it. `readPort` does the same for 16 bits and says why a text is
no port. `readBinary64` reads decimal notation with a point and an exponent, and
the names of the infinities and of NaN in any case.

Cells of a numeric type are read with them in `value_from_text`, and the port
option of `Cli` with `readPort`.
-/
namespace SqlGuard.Number

open SqlGuard.Text

def isDigit (c : Char) : Bool := '0' ≤ c && c ≤ '9'

def digitValue (c : Char) : Nat := c.toNat - 48

/-- The number that decimal digits denote. -/
def digitsValue (ds : List Char) : Nat := ds.foldl (fun n c => 10 * n + digitValue c) 0

/-- The number denoted by one or more digits. -/
def readDigits (s : List Char) : Option Nat :=
  if s ≠ [] ∧ s.all isDigit then some (digitsValue s) else none

/-- The integer denoted by an optional sign and digits. -/
def readInteger : List Char → Option Int
  | '-' :: rest => (readDigits rest).map fun n => -(n : Int)
  | '+' :: rest => (readDigits rest).map Int.ofNat
  | s => (readDigits s).map Int.ofNat

/-- The natural number denoted by an optional plus sign and digits. -/
def readNatural : List Char → Option Nat
  | '+' :: rest => readDigits rest
  | s => readDigits s

/-- A signed number of 64 bits. -/
def readSigned (s : List Char) : Option Int :=
  (readInteger s).filter fun n => -(twoTo 63 : Int) ≤ n && n < twoTo 63

/-- An unsigned number of 64 bits. -/
def readUnsigned (s : List Char) : Option Nat := (readNatural s).filter (· < twoTo 64)

/-- Why a text is no number of a port. -/
inductive PortFault
  | empty
  | invalidDigit
  | outside (value : Int)
  /-- Beyond what a 64-bit integer holds. -/
  | overflow (below : Bool)
  deriving DecidableEq, Repr

def PortFault.message : PortFault → String
  | .empty => "cannot parse integer from empty string"
  | .invalidDigit => "invalid digit found in string"
  | .outside value => toString value ++ " is not in 0..=65535"
  | .overflow true => "number too small to fit in target type"
  | .overflow false => "number too large to fit in target type"

/-- Where the first character that is no digit stands decides between a text
that is too long and one that is no number. -/
def digitsWithin (limit : Nat) (below : Bool) : Nat → List Char → Except PortFault Nat
  | n, [] => .ok n
  | n, c :: rest =>
    if !isDigit c then .error .invalidDigit
    else
      let next := 10 * n + digitValue c
      if limit < next then .error (.overflow below) else digitsWithin limit below next rest

/-- The number of a port: a 64-bit integer in the range of 16 bits. -/
def readPort (s : List Char) : Except PortFault UInt16 := do
  let value : Int ← match s with
    | [] => .error .empty
    | ['-'] | ['+'] => .error .invalidDigit
    | '-' :: rest => (digitsWithin (twoTo 63) true 0 rest).map fun n => -(n : Int)
    | '+' :: rest => (digitsWithin (twoTo 63 - 1) false 0 rest).map Int.ofNat
    | _ => (digitsWithin (twoTo 63 - 1) false 0 s).map Int.ofNat
  if 0 ≤ value ∧ value ≤ 65535 then .ok (.ofNat value.toNat) else .error (.outside value)

/-- The exponent after its letter: an optional sign and at least one digit. -/
def readExponent : List Char → Option Int
  | [] => some 0
  | c :: rest => if c = 'e' ∨ c = 'E' then readInteger rest else none

/-- Decimal notation without its sign. At least one digit stands beside the
point. -/
def readMagnitude (negative : Bool) (s : List Char) : Option Binary64 :=
  let whole := s.takeWhile isDigit
  let (fractional, rest) := match s.dropWhile isDigit with
    | '.' :: rest => (rest.takeWhile isDigit, rest.dropWhile isDigit)
    | rest => ([], rest)
  if whole = [] ∧ fractional = [] then none
  else
    (readExponent rest).map fun exponent =>
      .ofDecimal negative (digitsValue (whole ++ fractional)) (exponent - fractional.length)

def readName (negative : Bool) (s : List Char) : Option Binary64 :=
  let name := String.ofList (s.map asciiSmall)
  if name = "inf" ∨ name = "infinity" then some (.infinity negative)
  else if name = "nan" then some (.nan negative)
  else none

/-- The double nearest to the number that the text denotes. -/
def readBinary64 (s : List Char) : Option Binary64 :=
  let (negative, rest) := match s with
    | '-' :: rest => (true, rest)
    | '+' :: rest => (false, rest)
    | _ => (false, s)
  readMagnitude negative rest <|> readName negative rest

end SqlGuard.Number
