import SqlGuard.Arguments.Read

/-!
# The words of the statement

Behind switches that can be read on their own, a word that does not begin with a
hyphen begins the statement (`readFrom_append`): it cannot be the value of a
switch, since no switch is still waiting for one. From there on no word is
looked at any more.

* `read_statement`: the statement is made of just these words, and the switches mean
  what they mean without it.
-/
namespace SqlGuard

namespace Arguments

/-- A word that begins with no hyphen is plain. -/
theorem Word.ofText_plain {word : List Char} (h : word.head? ≠ some '-') :
    Word.ofText word = .plain := by
  unfold Word.ofText
  split
  · exact absurd rfl h
  · exact absurd rfl h
  · exact absurd rfl h
  · rfl

namespace Scan

/-- The scan when nothing is left to settle. The profile may be named by the environment. -/
def settled (s : Scan) (fallback : Option String) : Except Misuse Scan := do
  let s ← s.settle
  match s.read.config, fallback with
  | none, some path => s.take .config path
  | _, _ => .ok s

/-- When the statement begins, its words are put beside what has been settled. -/
theorem finish_eq (s : Scan) (fallback : Option String) (words : List String) :
    s.finish fallback words = (s.settled fallback).map fun s => { s.read with words := words } := by
  unfold finish settled
  cases s.settle with
  | error m => rfl
  | ok s =>
    simp only [bind, Except.bind]
    obtain ⟨⟨config, url, host, port, user, database, old⟩, given, pending⟩ := s
    cases config with
    | some path => rfl
    | none =>
      cases fallback with
      | none => rfl
      | some path =>
        dsimp only
        generalize Scan.take _ Choice.config path = taken
        cases taken <;> rfl

/-- A switch that still waits for its value cannot be settled. -/
theorem settled_waiting {s : Scan} {c : Choice} (h : s.pending = some (c, none))
    (fallback : Option String) : s.settled fallback = .error (.noValue c) := by
  unfold settled settle
  rw [h]
  rfl

theorem finish_ok {s : Scan} {fallback : Option String} {words : List String} {i : Invocation}
    (h : s.finish fallback words = .ok i) (more : List String) :
    i.words = words ∧ s.finish fallback more = .ok { i with words := more } := by
  rw [finish_eq] at h ⊢
  cases hs : s.settled fallback with
  | error m => rw [hs] at h; cases h
  | ok s => rw [hs] at h; cases h; exact ⟨rfl, rfl⟩

end Scan

theorem ok_of_mapError {ε ε' α : Type} {x : Except ε α} {f : ε → ε'} {a : α}
    (h : x.mapError f = .ok a) : x = .ok a := by
  cases x with
  | error m => cases h
  | ok b => cases h; rfl

/-- A plain word behind switches begins the statement, whatever words follow it. -/
theorem readFrom_append {fallback : Option String} {first : String}
    (hfirst : Word.ofText first.toList = .plain) (rest : List String) {switches : List String}
    {s : Scan} {i : Invocation} (h : readFrom fallback s switches = .ok i) (hnone : i.words = []) :
    readFrom fallback s (switches ++ first :: rest) = .ok { i with words := first :: rest } := by
  induction switches generalizing s with
  | nil =>
    have hfinish : s.finish fallback [] = .ok i := ok_of_mapError h
    obtain ⟨-, hmore⟩ := Scan.finish_ok hfinish (first :: rest)
    rw [List.nil_append, readFrom, hfirst]
    dsimp only
    split
    · rename_i c hwaits
      rw [Scan.finish_eq, Scan.settled_waiting hwaits] at hfinish
      cases hfinish
    · rw [hmore]
      rfl
  | cons word more ih =>
    rw [List.cons_append]
    unfold readFrom at h ⊢
    cases hword : Word.ofText word.toList with
    | separator =>
      rw [hword] at h
      -- nothing follows the two hyphens, since no words have been read
      obtain ⟨hwords, hmore⟩ := Scan.finish_ok (ok_of_mapError h) (first :: rest)
      obtain rfl : more = [] := hwords.symm.trans hnone
      dsimp only
      rw [List.nil_append, hmore]
      rfl
    | long name value =>
      rw [hword] at h
      dsimp only at h ⊢
      cases hs : Switch.ofName name with
      | none => rw [hs] at h; cases h
      | some switch =>
        rw [hs] at h
        dsimp only at h ⊢
        cases hr : readSwitch s switch value with
        | error d => rw [hr] at h; cases h
        | ok s' =>
          rw [hr] at h
          exact ih h
    | short letter tail =>
      rw [hword] at h
      dsimp only at h ⊢
      split at h
      · cases h
      · cases hr : readSwitch s _ (attached tail) with
        | error d => rw [hr] at h; cases h
        | ok s' =>
          rw [hr] at h
          exact ih h
      · cases h
    | plain =>
      rw [hword] at h
      dsimp only at h ⊢
      split at h
      · exact ih h
      · obtain ⟨hwords, -⟩ := Scan.finish_ok (ok_of_mapError h) []
        rw [hnone] at hwords
        cases hwords

/-- Behind switches that can be read on their own, the first word that does not begin with a hyphen
begins the statement. It is made of just this word and all that follow it, joined by blanks, and the
fields that the switches have set, and so the overrides, are those without it. -/
theorem read_statement {switches : List String} {fallback : Option String} {i : Invocation}
    (hread : read switches fallback = .ok i) (hnone : i.words = []) {first : String}
    (hfirst : first.toList.head? ≠ some '-') (rest : List String) :
    let j : Invocation := { i with words := first :: rest }
    read (switches ++ first :: rest) fallback = .ok j ∧
      j.query = some (" ".intercalate (first :: rest)) ∧ j.overrides = i.overrides :=
  ⟨readFrom_append (Word.ofText_plain hfirst) rest hread hnone, rfl, rfl⟩

/-- Words that look like switches, two hyphens, an empty word, and the profile named by the
environment. -/
theorem select_read :
    let i : Invocation :=
      ⟨some "shop.toml", some "mysql://reader@db/shop", none, some 3307, none, none, []⟩
    let j : Invocation :=
      { i with words := ["SELECT", "-d", "--", "--url", "a  b", "", "--help"] }
    read ["--port=3307", "--url", "mysql://reader@db/shop"] (some "shop.toml") = .ok i ∧
      "SELECT".toList.head? ≠ some '-' ∧
      read (["--port=3307", "--url", "mysql://reader@db/shop"] ++
        ["SELECT", "-d", "--", "--url", "a  b", "", "--help"]) (some "shop.toml") = .ok j ∧
      j.query = some "SELECT -d -- --url a  b  --help" ∧ j.overrides = i.overrides := by
  intro i j
  have hread : read ["--port=3307", "--url", "mysql://reader@db/shop"] (some "shop.toml") =
      .ok i := by
    rfl
  have hfirst : "SELECT".toList.head? ≠ some '-' := by decide
  obtain ⟨hj, hquery, hoverrides⟩ :=
    read_statement hread rfl hfirst ["-d", "--", "--url", "a  b", "", "--help"]
  exact ⟨hread, hfirst, hj, hquery, hoverrides⟩

end Arguments

end SqlGuard
