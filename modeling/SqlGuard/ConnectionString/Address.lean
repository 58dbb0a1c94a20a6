import SqlGuard.ConnectionString.Percent
import SqlGuard.Number.Power
import SqlGuard.Text.Split

/-!
# Addresses of hosts

`readAddress6` reads an IPv6 address as its eight pieces, and `address6Text` is
the shortest way to write one: the first of the longest runs of zero pieces is
left out. `isAddress4Like` and `readAddress4` are the rules for names that end
in a number.
-/
namespace SqlGuard.ConnectionString

open SqlGuard.Text

/-- The text in front of the first double colon, and behind it. -/
def cutAtDouble : List Char → Option (List Char × List Char)
  | ':' :: ':' :: rest => some ([], rest)
  | c :: rest => (cutAtDouble rest).map fun (left, right) => (c :: left, right)
  | [] => none

def digitsIn (base : Nat) (s : List Char) : Option Nat :=
  s.foldlM (fun n c => (hexValue c).bind fun d => if d < base then some (base * n + d) else none) 0

/-- One to four hexadecimal digits. -/
def readPiece (s : List Char) : Option Nat :=
  if s ≠ [] ∧ s.length ≤ 4 then digitsIn 16 s else none

/-- A number up to 255 without leading zeros. -/
def readOctet (s : List Char) : Option Nat :=
  if s = [] ∨ (s.head? = some '0' ∧ 1 < s.length) then none
  else (digitsIn 10 s).filter (· ≤ 255)

/-- Four numbers between points are two pieces. -/
def readDotted (s : List Char) : Option (List Nat) :=
  match (splitAt '.' s).mapM readOctet with
  | some [a, b, c, d] => some [256 * a + b, 256 * c + d]
  | _ => none

/-- The pieces of a text without a double colon; the last part may be written
as four numbers. -/
def readPieces (dotted : Bool) (s : List Char) : Option (List Nat) :=
  if s = [] then some []
  else
    let parts := splitAt ':' s
    let last := parts.getLastD []
    if dotted && last.contains '.' then do
      let front ← parts.dropLast.mapM readPiece
      let back ← readDotted last
      some (front ++ back)
    else parts.mapM readPiece

/-- The eight pieces of an IPv6 address. A double colon stands for at least one
zero piece. -/
def readAddress6 (s : List Char) : Option (List Nat) :=
  match cutAtDouble s with
  | none => (readPieces true s).filter fun pieces => pieces.length = 8
  | some (left, right) => do
    let front ← readPieces false left
    let back ← readPieces true right
    if front.length + back.length ≤ 7 then
      some (front ++ List.replicate (8 - front.length - back.length) 0 ++ back)
    else none

/-- The longest run of zeros, the first of several: its start and its length. -/
def longestZeros (pieces : List Nat) : Nat × Nat :=
  (List.range pieces.length).foldl (fun best start =>
    let run := ((pieces.drop start).takeWhile (· = 0)).length
    if best.2 < run then (start, run) else best) (0, 0)

def joinPieces (pieces : List Nat) : List Char :=
  (List.intersperse [':'] (pieces.map (Nat.toDigits 16))).flatten

/-- The shortest text of an IPv6 address. -/
def address6Text (pieces : List Nat) : List Char :=
  let (start, run) := longestZeros pieces
  if run < 2 then joinPieces pieces
  else joinPieces (pieces.take start) ++ ':' :: ':' :: joinPieces (pieces.drop (start + run))

/-- A number in decimal, or in octal behind a zero, or in hexadecimal behind a
zero and an x. -/
def readNumber (s : List Char) : Option Nat :=
  match s with
  | [] => none
  | '0' :: 'x' :: rest | '0' :: 'X' :: rest => digitsIn 16 rest
  | '0' :: c :: rest => digitsIn 8 (c :: rest)
  | _ => digitsIn 10 s

/-- The parts of a name between points; a point at its end separates nothing. -/
def labels (s : List Char) : List (List Char) :=
  let parts := splitAt '.' s
  if parts.getLastD [] = [] ∧ 1 < parts.length then parts.dropLast else parts

/-- The name has to be an IPv4 address, because it ends in a number. -/
def isAddress4Like (s : List Char) : Bool :=
  let last := (labels s).getLastD []
  (last ≠ [] && last.all Char.isDigit) || (readNumber last).isSome

/-- The number of an IPv4 address. The last part fills all places that are
left. -/
def readAddress4 (s : List Char) : Option Nat := do
  let numbers ← (labels s).mapM readNumber
  let last ← numbers.getLast?
  let front := numbers.dropLast
  if 3 < front.length || front.any (255 < ·) || twoTo (8 * (4 - front.length)) ≤ last then none
  else some (front.foldl (fun n octet => 256 * n + octet) 0 * twoTo (8 * (4 - front.length)) + last)

end SqlGuard.ConnectionString
