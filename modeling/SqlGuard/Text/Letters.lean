import SqlGuard.Text.CaseTable

/-!
# Upper and lower case of a whole text

`capitals` and `smalls` replace every character by its full case form, which
may have several letters (`ß` becomes `SS`, `ﬅ` becomes `ST`).

The lower case of a text is only ever compared with words of ASCII letters, so
`smalls` gives a capital sigma its form inside a word also at a word's end.

The policy and `yields_rows` capitalise a statement, and `value_from_text` the
name of a type; `map_connection_error` and the prompt look at small letters.
-/
namespace SqlGuard.Text

/-- The form of a code point in a table of runs. -/
def imageIn (runs : List CaseRun) (code : Nat) : Option Nat :=
  runs.findSome? fun (first, last, stride, image) =>
    if first ≤ code ∧ code ≤ last ∧ (code - first) % stride = 0 then some (image + (code - first))
    else none

/-- The form of a character: a word of its own, or one letter of a run, or the
character itself. -/
def formIn (words : List (Nat × List Nat)) (runs : List CaseRun) (c : Char) : List Char :=
  match words.lookup c.toNat with
  | some word => word.map Char.ofNat
  | none =>
    match imageIn runs c.toNat with
    | some code => [Char.ofNat code]
    | none => [c]

def capital (c : Char) : List Char := formIn capitalWords capitalRuns c

def small (c : Char) : List Char := formIn smallWords smallRuns c

def capitals (s : List Char) : List Char := s.flatMap capital

def smalls (s : List Char) : List Char := s.flatMap small

/-- Upper case in the ASCII range alone. -/
def asciiCapital (c : Char) : Char :=
  if 'a' ≤ c ∧ c ≤ 'z' then Char.ofNat (c.toNat - 32) else c

/-- Lower case in the ASCII range alone. -/
def asciiSmall (c : Char) : Char :=
  if 'A' ≤ c ∧ c ≤ 'Z' then Char.ofNat (c.toNat + 32) else c

/-- The word stands somewhere in the text. -/
def occursIn (word : List Char) : List Char → Bool
  | [] => word.isEmpty
  | c :: rest => word.isPrefixOf (c :: rest) || occursIn word rest

theorem occursIn_iff {word s : List Char} : occursIn word s = true ↔ word <:+: s := by
  induction s with
  | nil => simp [occursIn, List.isEmpty_iff]
  | cons c rest ih =>
    simp only [occursIn, Bool.or_eq_true, List.isPrefixOf_iff_prefix, ih, List.infix_cons_iff]

end SqlGuard.Text
