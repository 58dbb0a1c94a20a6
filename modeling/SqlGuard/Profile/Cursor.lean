import SqlGuard.Number.Binary64

/-!
# Reading octets with positions

A `Cursor` is the rest of a document and the position of its first octet. A
`Reader` takes octets away or fails with a cause at a position. The position of
a cause is that of the octets taken (`failHere`), or that behind the next octet
when that one is to blame (`failNext`).
-/
namespace SqlGuard.Profile

/-- The number of a line, and the number of octets in it. -/
structure Position where
  line : Nat
  column : Nat
  deriving DecidableEq, Repr

def Position.start : Position := ⟨1, 0⟩

def Position.after (p : Position) (b : UInt8) : Position :=
  if b = 10 then ⟨p.line + 1, 0⟩ else ⟨p.line, p.column + 1⟩

structure Cursor where
  rest : List UInt8
  position : Position
  deriving Repr

abbrev Reader (ε α : Type) : Type := StateT Cursor (Except (ε × Position)) α

namespace Reader

variable {ε α : Type}

def failHere (cause : ε) : Reader ε α := fun c => .error (cause, c.position)

def failNext (cause : ε) : Reader ε α := fun c =>
  .error (cause, match c.rest with
    | [] => c.position
    | b :: _ => c.position.after b)

/-- The next octet, which is not taken. -/
def peek : Reader ε (Option UInt8) := fun c => .ok (c.rest.head?, c)

/-- Takes the next octet, if there is one. -/
def take : Reader ε (Option UInt8) := fun c =>
  match c.rest with
  | [] => .ok (none, c)
  | b :: rest => .ok (some b, ⟨rest, c.position.after b⟩)

/-- The octets up to the first one that does not fit, and what follows them. -/
def span (fits : UInt8 → Bool) (p : Position) : List UInt8 → List UInt8 × Cursor
  | [] => ([], ⟨[], p⟩)
  | b :: rest =>
    if fits b then
      let (taken, c) := span fits (p.after b) rest
      (b :: taken, c)
    else ([], ⟨b :: rest, p⟩)

/-- Takes octets as long as they fit. -/
def takeWhile (fits : UInt8 → Bool) : Reader ε (List UInt8) := fun c =>
  .ok (span fits c.position c.rest)

/-- Takes a number of octets, or all of them if there are too few. -/
def takeCount : Nat → Reader ε (List UInt8)
  | 0 => pure []
  | n + 1 => do
    match ← take with
    | none => pure []
    | some b => return b :: (← takeCount n)

/-- The number of octets that are left. -/
def remaining : Reader ε Nat := fun c => .ok (c.rest.length, c)

end Reader

end SqlGuard.Profile
