import SqlGuard.Number.Reading
import SqlGuard.Places
import SqlGuard.Text.Blank
import SqlGuard.Text.Split

/-!
# Which notes are written, and how

A `Filter` is a list of rules, each with the beginning of the targets that it is
for and the level down to which it lets notes through. The rule with the
longest fitting beginning decides, and of several for the same beginning the
last.
-/
namespace SqlGuard

namespace Level

/-- The level that a word or a number names; `off` and zero let nothing
through. -/
def ofText (text : List Char) : Option (Option Level) :=
  match Number.readNatural text with
  | some 0 => some none
  | some 1 => some (some error)
  | some 2 => some (some warn)
  | some 3 => some (some info)
  | some 4 => some (some debug)
  | some 5 => some (some trace)
  | some _ => none
  | none =>
    match String.ofList (text.map Text.asciiSmall) with
    | "error" => some (some error)
    | "warn" => some (some warn)
    | "info" => some (some info)
    | "debug" => some (some debug)
    | "trace" => some (some trace)
    | "off" => some none
    | _ => none

end Level

structure Rule where
  /-- What the target of a note begins with. -/
  scope : List Char
  /-- The least important level that is let through, if any is. -/
  level : Option Level
  deriving DecidableEq, Repr

abbrev Filter : Type := List Rule

namespace Rule

/-- A rule for everything or for a target, written as a level, as a target, or
as a target and a level between an equals sign. Without a level everything is
let through. A rule for a part of the program's work, in brackets, concerns no
note. -/
def ofText (text : List Char) : Option (List Rule) :=
  let text := Text.trim text
  match text with
  | [] => none
  | c :: _ =>
    let scope := text.takeWhile fun c => c ≠ '=' && c ≠ '['
    if c = '[' then some []
    else if !(c = '-' || c = ':' || c = '_' || c.isAlphanum || 127 < c.toNat) then none
    else
      match text.drop scope.length with
      | [] =>
        match Level.ofText text with
        | some level => some [⟨[], level⟩]
        | none => some [⟨text, some .trace⟩]
      | ['='] => some [⟨scope, some .trace⟩]
      | '=' :: level => (Level.ofText level).map fun level => [⟨scope, level⟩]
      | _ => some []

end Rule

namespace Filter

/-- The rules between commas. No text at all lets errors through. -/
def ofText (text : String) : Option Filter :=
  if text = "" then some [⟨[], some .error⟩]
  else ((Text.splitAt ',' text.toList).mapM Rule.ofText).map List.flatten

/-- The rules that the environment asks for. Rules that cannot be read are as
good as none. Models the choice of a filter in `init`. -/
def ofEnvironment (e : Environment) (sink : Sink) : Filter :=
  (e.log.bind ofText).getD [⟨[], some sink.standardLevel⟩]

/-- The rule that decides about a target. -/
def deciding (f : Filter) (target : List Char) : Option Rule :=
  f.foldl (fun best rule =>
    if rule.scope.isPrefixOf target &&
        (best.map fun r : Rule => decide (r.scope.length ≤ rule.scope.length)).getD true
    then some rule else best) none

/-- The filter lets a note through. -/
def admits (f : Filter) (n : Note) : Bool :=
  match (f.deciding n.target.toList).bind (·.level) with
  | some level => n.level.rank ≤ level.rank
  | none => false

end Filter

namespace Note

/-- Characters that could steer a terminal are written as escapes. -/
def shown (c : Char) : List Char :=
  match c with
  | '\x1b' => ['\\', 'x', '1', 'b']
  | '\x07' => ['\\', 'x', '0', '7']
  | '\x08' => ['\\', 'x', '0', '8']
  | '\x0c' => ['\\', 'x', '0', 'c']
  | '\x7f' => ['\\', 'x', '7', 'f']
  | c =>
    if 0x80 ≤ c.toNat ∧ c.toNat ≤ 0x9F then
      ['\\', 'u', '\x7b'] ++ Nat.toDigits 16 c.toNat ++ ['\x7d']
    else [c]

/-- The line of a note. Its text may hold line breaks. -/
def line (n : Note) : String :=
  n.level.name ++ " " ++ n.target ++ ": " ++ String.ofList (n.text.toList.flatMap shown)

end Note

end SqlGuard
