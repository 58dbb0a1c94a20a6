import SqlGuard.Command
import SqlGuard.Policy
import SqlGuard.Session.Input
import SqlGuard.Text.Utf8

/-!
# Lines of input, and what they ask for

`Cut bytes lines rest` says without recursion what it means to cut octets after
each newline. Only one cut exists (`Cut.unique`), and it does not depend on how
the octets arrive: `Input.assembled_cut`.

A line asks for at most one of two things, to leave (`Line.leaves`) or to run a
statement (`Line.statement?`). A session handles the `handled` lines only, up to
the first one that leaves.
-/
namespace SqlGuard

/-! ## Cutting -/

/-- The octets are whole lines, each with its newline, and a rest without one. -/
structure Cut (bytes : List UInt8) (lines : List (List UInt8)) (rest : List UInt8) : Prop where
  bytes_eq : bytes = lines.flatten ++ rest
  line_end : ∀ line ∈ lines, ∃ body, newline ∉ body ∧ line = body ++ [newline]
  rest_open : newline ∉ rest

namespace Cut

theorem nil : Cut [] [] [] := ⟨rfl, by simp, by simp⟩

/-- Octets up to a first newline are the first line. -/
theorem head_eq {body body' more more' : List UInt8} (h : newline ∉ body) (h' : newline ∉ body')
    (he : body ++ newline :: more = body' ++ newline :: more') : body = body' ∧ more = more' := by
  induction body generalizing body' with
  | nil =>
    cases body' with
    | nil => simpa using he
    | cons b body' =>
      simp only [List.nil_append, List.cons_append, List.cons.injEq] at he
      exact absurd (by simp [← he.1]) h'
  | cons b body ih =>
    cases body' with
    | nil =>
      simp only [List.nil_append, List.cons_append, List.cons.injEq] at he
      exact absurd (by simp [he.1]) h
    | cons b' body' =>
      simp only [List.cons_append, List.cons.injEq] at he
      simp only [List.mem_cons, not_or] at h h'
      obtain ⟨h1, h2⟩ := ih h.2 h'.2 he.2
      exact ⟨by rw [he.1, h1], h2⟩

theorem unique {bytes rest rest' : List UInt8} {lines lines' : List (List UInt8)}
    (h : Cut bytes lines rest) (h' : Cut bytes lines' rest') : lines = lines' ∧ rest = rest' := by
  induction lines generalizing bytes lines' with
  | nil =>
    have hb := h.bytes_eq
    simp only [List.flatten_nil, List.nil_append] at hb
    cases lines' with
    | nil => exact ⟨rfl, by rw [← hb, h'.bytes_eq]; rfl⟩
    | cons line lines' =>
      obtain ⟨body, -, rfl⟩ := h'.line_end line (by simp)
      have hm : newline ∈ rest := by rw [← hb, h'.bytes_eq]; simp
      exact absurd hm h.rest_open
  | cons line lines ih =>
    obtain ⟨body, hbody, rfl⟩ := h.line_end line (by simp)
    have hb := h.bytes_eq
    cases lines' with
    | nil =>
      have hm : newline ∈ rest' := by
        have := h'.bytes_eq
        simp only [List.flatten_nil, List.nil_append] at this
        rw [← this, hb]; simp
      exact absurd hm h'.rest_open
    | cons line' lines' =>
      obtain ⟨body', hbody', rfl⟩ := h'.line_end line' (by simp)
      have he := hb.symm.trans h'.bytes_eq
      simp only [List.flatten_cons, List.append_assoc, List.singleton_append] at he
      obtain ⟨rfl, hmore⟩ := head_eq hbody hbody' he
      have := ih ⟨rfl, fun l hl => h.line_end l (by simp [hl]), h.rest_open⟩
        ⟨hmore, fun l hl => h'.line_end l (by simp [hl]), h'.rest_open⟩
      exact ⟨by rw [this.1], this.2⟩

/-- More octets behind a cut complete its rest. -/
theorem append {bytes rest more rest' : List UInt8} {lines lines' : List (List UInt8)}
    (h : Cut bytes lines rest) (h' : Cut (rest ++ more) lines' rest') :
    Cut (bytes ++ more) (lines ++ lines') rest' where
  bytes_eq := by
    rw [h.bytes_eq, List.append_assoc, h'.bytes_eq, List.flatten_append, List.append_assoc]
  line_end line hl := by
    rcases List.mem_append.mp hl with hl | hl
    · exact h.line_end line hl
    · exact h'.line_end line hl
  rest_open := h'.rest_open

/-- A newline ends the line that is open. -/
theorem line {body : List UInt8} (h : newline ∉ body) :
    Cut (body ++ [newline]) [body ++ [newline]] [] :=
  ⟨by simp, by intro l hl; exact ⟨body, h, by simpa using hl⟩, by simp⟩

end Cut

theorem cutLines_cut (bytes : List UInt8) : Cut bytes (cutLines bytes).1 (cutLines bytes).2 := by
  induction bytes with
  | nil => exact Cut.nil
  | cons b bytes ih =>
    unfold cutLines
    cases hc : cutLines bytes with
    | mk lines rest =>
    rw [hc] at ih
    dsimp only at ih ⊢
    split
    · rename_i hb
      subst hb
      have hline : Cut [newline] [[newline]] [] := Cut.line List.not_mem_nil
      have hmore : Cut ([] ++ bytes) lines rest := ih
      exact hline.append hmore
    · rename_i hb
      cases lines with
      | nil =>
        have hr := ih.rest_open
        exact ⟨by simp [ih.bytes_eq], by simp, by simp [hr, Ne.symm hb]⟩
      | cons line lines =>
        obtain ⟨body, hbody, rfl⟩ := ih.line_end line (by simp)
        refine ⟨by simp [ih.bytes_eq], ?_, ih.rest_open⟩
        intro l hl
        rcases List.mem_cons.mp hl with rfl | hl
        · exact ⟨b :: body, by simp [hbody, Ne.symm hb], rfl⟩
        · exact ih.line_end l (by simp [hl])

theorem Assembly.feed_cut {a : Assembly} {bytes : List UInt8} (h : Cut bytes a.lines a.pending)
    (chunk : List UInt8) : Cut (bytes ++ chunk) (a.feed chunk).lines (a.feed chunk).pending :=
  h.append (cutLines_cut (a.pending ++ chunk))

/-- However the octets arrive, they are cut after each newline. -/
theorem Input.assembled_cut (i : Input) :
    Cut i.chunks.flatten i.assembled.lines i.assembled.pending := by
  have key : ∀ (chunks : List (List UInt8)) (a : Assembly) (bytes : List UInt8),
      Cut bytes a.lines a.pending → Cut (bytes ++ chunks.flatten)
        (chunks.foldl Assembly.feed a).lines (chunks.foldl Assembly.feed a).pending := by
    intro chunks
    induction chunks with
    | nil => intro a bytes h; simpa using h
    | cons chunk chunks ih =>
      intro a bytes h
      simpa using ih (a.feed chunk) (bytes ++ chunk) (Assembly.feed_cut h chunk)
  exact key i.chunks ⟨[], []⟩ [] Cut.nil

/-- The lines of an input are those of its only cut; the rest counts as a line if the input ends
by itself. -/
theorem Input.lines_of_cut {i : Input} {lines : List (List UInt8)} {rest : List UInt8}
    (h : Cut i.chunks.flatten lines rest) :
    i.lines = if i.ending = .exhausted ∧ rest ≠ [] then lines ++ [rest] else lines := by
  obtain ⟨rfl, rfl⟩ := h.unique i.assembled_cut
  rfl

/-! ## What a line asks for -/

namespace Line

open Text

/-- The statement on a line: its text without the blanks around it, unless that is nothing, a
command, or no text at all. -/
def statement? (line : List UInt8) : Option String :=
  match Utf8.decodeString line with
  | .error _ => none
  | .ok text =>
    match Command.ofLine text with
    | .query _ => some (String.ofList (trim text.toList))
    | _ => none

/-- The statement on a line, if the policy admits it. -/
def admitted? (line : List UInt8) : Option String :=
  (statement? line).filter fun sql => Policy.classify sql = .admitted

/-- The line asks to leave. -/
def leaves (line : List UInt8) : Bool :=
  match Utf8.decodeString line with
  | .error _ => false
  | .ok text =>
    match Command.ofLine text with
    | .leave => true
    | _ => false

theorem query_eq {line sql : String} (h : Command.ofLine line = .query sql) :
    sql = String.ofList (trim line.toList) := by
  unfold Command.ofLine at h
  dsimp only at h
  split at h
  · cases h
  split at h
  · cases h
  split at h
  · cases h
  · cases h; rfl

end Line

/-- The lines that a session handles: none behind the first that asks to leave. -/
def handled : List (List UInt8) → List (List UInt8)
  | [] => []
  | line :: rest => if Line.leaves line then [line] else line :: handled rest

end SqlGuard
