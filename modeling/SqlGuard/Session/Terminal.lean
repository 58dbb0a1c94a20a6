/-!
# Terminals that may fail

A terminal takes a limited or unlimited number of octets, and lets a limited or
unlimited number of flushes succeed. Beyond its limits it fails, always with the
same fault.

It models the writer that the shell is given.
-/
namespace SqlGuard

structure Terminal where
  /-- The octets it still takes. -/
  room : Option Nat
  /-- The flushes that still succeed. -/
  flushes : Option Nat
  fault : String
  deriving DecidableEq, Repr

namespace Terminal

/-- A terminal that never fails. -/
def unlimited : Terminal := ⟨none, none, ""⟩

/-- The octets that it takes of those written to it. -/
def accepted (t : Terminal) (octets : List UInt8) : List UInt8 :=
  match t.room with
  | some n => octets.take n
  | none => octets

/-- It takes all of the octets. -/
def takes (t : Terminal) (octets : List UInt8) : Bool :=
  match t.room with
  | some n => octets.length ≤ n
  | none => true

def afterWriting (t : Terminal) (octets : List UInt8) : Terminal :=
  { t with room := t.room.map (· - octets.length) }

def canFlush (t : Terminal) : Bool := t.flushes ≠ some 0

def afterFlushing (t : Terminal) : Terminal := { t with flushes := t.flushes.map (· - 1) }

end Terminal

end SqlGuard
