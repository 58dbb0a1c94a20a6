import SqlGuard.Number.Reading
import SqlGuard.Profile.Draft

/-!
# Numbers, dates and times of a TOML document
-/
namespace SqlGuard.Profile.Toml

open SqlGuard.Number

/-! ## Dates and times -/

/-- A number of exactly so many digits within bounds. -/
def digitsOfLength (count low high : Nat) (s : List Char) : Option (Nat × List Char) :=
  let digits := s.take count
  if digits.length = count ∧ digits.all isDigit then
    let n := digitsValue digits
    if low ≤ n ∧ n ≤ high then some (n, s.drop count) else none
  else none

def expect (c : Char) : List Char → Option (List Char)
  | d :: rest => if d = c then some rest else none
  | [] => none

def isLeapYear (year : Nat) : Bool := year % 4 = 0 && (year % 100 ≠ 0 || year % 400 = 0)

def daysInMonth (year month : Nat) : Nat :=
  if month = 2 then (if isLeapYear year then 29 else 28)
  else if [4, 6, 9, 11].contains month then 30
  else 31

/-- A date. -/
def date (s : List Char) : Option (List Char) := do
  let (year, s) ← digitsOfLength 4 0 9999 s
  let s ← expect '-' s
  let (month, s) ← digitsOfLength 2 1 12 s
  let s ← expect '-' s
  let (_, s) ← digitsOfLength 2 1 (daysInMonth year month) s
  some s

/-- Fractions of a second, if there are any. -/
def fraction : List Char → List Char
  | '.' :: c :: rest => if isDigit c then rest.dropWhile isDigit else '.' :: c :: rest
  | s => s

/-- A time of day. A minute may have a leap second. -/
def time (s : List Char) : Option (List Char) := do
  let (_, s) ← digitsOfLength 2 0 23 s
  let s ← expect ':' s
  let (_, s) ← digitsOfLength 2 0 59 s
  let s ← expect ':' s
  let (_, s) ← digitsOfLength 2 0 60 s
  some (fraction s)

/-- A distance from universal time. -/
def offset : List Char → Option (List Char)
  | [] => none
  | c :: s =>
    if c = 'Z' ∨ c = 'z' then some s
    else if c = '+' ∨ c = '-' then do
      let (_, s) ← digitsOfLength 2 0 23 s
      let s ← expect ':' s
      let (_, s) ← digitsOfLength 2 0 59 s
      some s
    else none

/-- A date, which a time and an offset may follow, or a time. -/
def dateTime (s : List Char) : Option (List Char) :=
  match date s with
  | none => time s
  | some rest =>
    match rest with
    | c :: more =>
      if c = 'T' ∨ c = 't' ∨ c = ' ' then
        match time more with
        | some rest => some ((offset rest).getD rest)
        | none => some rest
      else some rest
    | [] => some rest

/-! ## Numbers -/

/-- Digits between which single underscores may stand. -/
def digitRun (fits : Char → Bool) : List Char → List Char × List Char
  | '_' :: c :: rest =>
    if fits c then
      let (digits, rest) := digitRun fits rest
      (c :: digits, rest)
    else ([], '_' :: c :: rest)
  | c :: rest =>
    if fits c then
      let (digits, rest) := digitRun fits rest
      (c :: digits, rest)
    else ([], c :: rest)
  | [] => ([], [])

/-- A digit and those that follow it. -/
def digits (fits : Char → Bool) : List Char → Option (List Char × List Char)
  | c :: rest =>
    if fits c then
      let (more, rest) := digitRun fits rest
      some (c :: more, rest)
    else none
  | [] => none

/-- A sign, if there is one. -/
def sign : List Char → List Char × List Char
  | '+' :: rest => (['+'], rest)
  | '-' :: rest => (['-'], rest)
  | s => ([], s)

/-- A whole number in decimal, without leading zeros. -/
def whole (s : List Char) : Option (List Char × List Char) :=
  let (mark, s) := sign s
  match s with
  | '0' :: rest => some (mark ++ ['0'], rest)
  | _ => (digits isDigit s).map fun (ds, rest) => (mark ++ ds, rest)

/-- An exponent. -/
def exponent : List Char → Option (List Char × List Char)
  | c :: s =>
    if c = 'e' ∨ c = 'E' then
      let (mark, s) := sign s
      (digits isDigit s).map fun (ds, rest) => ('e' :: (mark ++ ds), rest)
    else none
  | [] => none

/-- A point and digits, which an exponent may follow. -/
def pointAndExponent : List Char → Option (List Char × List Char)
  | '.' :: s => do
    let (ds, rest) ← digits isDigit s
    match exponent rest with
    | some (e, rest) => some ('.' :: (ds ++ e), rest)
    | none => some ('.' :: ds, rest)
  | _ => none

def positiveInfinity : Binary64 := .infinity false

/-- The names of numbers that digits cannot write. -/
def specialFloat (s : List Char) : Option (Binary64 × List Char) :=
  let (mark, s) := sign s
  let negative : Bool := mark = ['-']
  match s with
  | 'i' :: 'n' :: 'f' :: rest => some (.infinity negative, rest)
  | 'n' :: 'a' :: 'n' :: rest => some (.nan negative, rest)
  | _ => none

/-- A floating point number. Digits must not denote a number that is too
large. -/
def float (s : List Char) : Option (Binary64 × List Char) :=
  let written := do
    let (front, rest) ← whole s
    let (back, rest) ← exponent rest <|> pointAndExponent rest
    let x ← readBinary64 (front ++ back)
    if x = positiveInfinity then none else some (x, rest)
  written <|> specialFloat s

def inBase (base : Nat) (c : Char) : Bool :=
  if base = 16 then isDigit c || ('a' ≤ c && c ≤ 'f') || ('A' ≤ c && c ≤ 'F')
  else isDigit c && digitValue c < base

def valueInBase (base : Nat) (ds : List Char) : Nat :=
  ds.foldl (fun n c =>
    base * n + (if isDigit c then digitValue c else if 'a' ≤ c then c.toNat - 87 else c.toNat - 55)) 0

/-- A whole number in another base. -/
def based (base : Nat) (s : List Char) : Option (Int × List Char) := do
  let (ds, rest) ← digits (inBase base) s
  let n := valueInBase base ds
  if n < twoTo 63 then some (n, rest) else none

/-- A whole number of 64 bits. -/
def integer : List Char → Option (Int × List Char)
  | '0' :: 'x' :: rest => based 16 rest
  | '0' :: 'o' :: rest => based 8 rest
  | '0' :: 'b' :: rest => based 2 rest
  | s => do
    let (text, rest) ← whole s
    let n ← readSigned text
    some (n, rest)

/-- A number, a date or a time. -/
def number (s : List Char) : Option (Setting × List Char) :=
  ((dateTime s).map fun rest => (.map, rest)) <|>
    ((float s).map fun (x, rest) => (.float x, rest)) <|>
    (integer s).map fun (n, rest) => (.integer n, rest)

end SqlGuard.Profile.Toml
