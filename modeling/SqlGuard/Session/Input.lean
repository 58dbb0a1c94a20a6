/-!
# Lines of input

Input arrives in chunks of octets. A line ends with a newline, which belongs to
it; what follows the last newline is a line of its own only if the input ends
by itself.

The lines are those that `prompt_loop` reads; an interrupt discards the
unfinished one.
-/
namespace SqlGuard

/-- How the input ends. -/
inductive Ending
  | exhausted
  | failed (detail : String)
  | interrupted
  deriving DecidableEq, Repr

structure Input where
  chunks : List (List UInt8)
  ending : Ending
  deriving DecidableEq, Repr

def newline : UInt8 := 10

/-- Cuts octets after each newline into lines and an unfinished rest. -/
def cutLines : List UInt8 → List (List UInt8) × List UInt8
  | [] => ([], [])
  | b :: bytes =>
    let (lines, rest) := cutLines bytes
    if b = newline then ([b] :: lines, rest)
    else
      match lines with
      | [] => ([], b :: rest)
      | line :: more => ((b :: line) :: more, rest)

/-- The lines finished so far, and the octets of the next one. -/
structure Assembly where
  lines : List (List UInt8)
  pending : List UInt8
  deriving DecidableEq, Repr

def Assembly.feed (a : Assembly) (chunk : List UInt8) : Assembly :=
  let (lines, pending) := cutLines (a.pending ++ chunk)
  ⟨a.lines ++ lines, pending⟩

namespace Input

def assembled (i : Input) : Assembly := i.chunks.foldl Assembly.feed ⟨[], []⟩

/-- The lines that can be handled. -/
def lines (i : Input) : List (List UInt8) :=
  let a := i.assembled
  if i.ending = .exhausted ∧ a.pending ≠ [] then a.lines ++ [a.pending] else a.lines

end Input

end SqlGuard
