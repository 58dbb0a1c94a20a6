import SqlGuard.Profile.Draft

/-!
# Tables of a TOML document

A table holds named nodes in the order in which they were made. It is implicit
as long as only something inside it has been named, and dotted if it was made
by a key with dots. Those two flags decide whether it may be named again.
-/
namespace SqlGuard.Profile.Toml

/-- From a character of the document to behind another. -/
structure Extent where
  start : Nat
  stop : Nat
  deriving DecidableEq, Repr

/-- A part of a key. -/
structure Key where
  name : String
  place : Extent
  deriving DecidableEq, Repr

inductive Node
  | value (setting : Setting) (place : Extent)
  | table (isImplicit isDotted : Bool) (place : Extent) (items : List (String × Node))
  /-- Tables under one name, the latest at the end. -/
  | tables (elements : List Node)
  deriving Repr

namespace Node

/-- A table without anything in it. -/
def emptyTable (place : Extent) : Node := table false false place []

/-- A table that is made because something inside it is named. -/
def passing (isDotted : Bool) (place : Extent) : Node := table true isDotted place []

/-- Replaces a named item where it stands, or adds it at the end. -/
def put (name : String) (node : Node) : List (String × Node) → List (String × Node)
  | [] => [(name, node)]
  | item :: rest => if item.1 = name then (name, node) :: rest else item :: put name node rest

/-- Changes the table that a path leads to. Keys with dots do not lead into
tables that have been named themselves. -/
def alter (isDotted : Bool) (change : Node → Option Node) : List Key → Node → Option Node
  | [], node => change node
  | key :: path, table i d place items =>
    match (items.lookup key.name).getD (passing isDotted key.place) with
    | value .. => none
    | tables elements =>
      match elements.getLast? with
      | none => none
      | some last =>
        (alter isDotted change path last).map fun last =>
          table i d place (put key.name (tables (elements.dropLast ++ [last])) items)
    | table i' d' place' items' =>
      if isDotted && !i' then none
      else
        (alter isDotted change path (table i' d' place' items')).map fun child =>
          table i d place (put key.name child items)
  | _, _ => none

/-- Adds a value to a table that has no item of that name yet. The table is a
dotted one exactly if dots lead to it. -/
def insertHere (viaDots : Bool) (name : String) (node : Node) : Node → Option Node
  | table i d place items =>
    if d ≠ viaDots || (items.lookup name).isSome then none
    else some (table i d place (items ++ [(name, node)]))
  | _ => none

/-- Adds a value under a key of several parts, the last of which names it. -/
def insert (root : Node) (key : List Key) (node : Node) : Option Node :=
  match key.getLast? with
  | none => none
  | some last =>
    alter true (insertHere (key.dropLast ≠ []) last.name node) key.dropLast root

/-- The place of a node. An array of tables reaches from its first table to its
last. -/
def place : Node → Extent
  | value _ place => place
  | table _ _ place _ => place
  | tables elements =>
    match elements.head?, elements.getLast? with
    | some (table _ _ first _), some (table _ _ last _) => ⟨first.start, last.stop⟩
    | _, _ => ⟨0, 0⟩

/-- What a node is as a setting. -/
def setting : Node → Setting
  | value setting _ => setting
  | table .. => .map
  | tables _ => .sequence

end Node

end SqlGuard.Profile.Toml
