import SqlGuard.Text.Blank
import SqlGuard.Text.Letters

/-!
# What a line typed at the prompt asks for

A `Command` models `InputCommand`.
-/
namespace SqlGuard

open SqlGuard.Text

inductive Command
  | blank
  | leave
  | help
  | query (sql : String)
  deriving DecidableEq, Repr

/-- The words `exit`, `quit` and `help` in any case are commands, if nothing but
blanks stands beside them; everything else is a statement. Models `parse` of
`InputCommand`. -/
def Command.ofLine (line : String) : Command :=
  let text := trim line.toList
  if text.isEmpty then .blank
  else
    let word := String.ofList (smalls text)
    if word = "exit" ∨ word = "quit" then .leave
    else if word = "help" then .help
    else .query (String.ofList text)

end SqlGuard
