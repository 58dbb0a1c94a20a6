import SqlGuard.Proofs.Keywords
import SqlGuard.Proofs.Streams
import SqlGuard.Rehearsal

/-!
# Statements without rows

Three tables of words say how a statement begins: the policy's `allowed` words,
the `rowProducing` words by which a link knows a statement that could not be
described, and the `projecting` words of a rehearsal. The first looks at a text
without the blanks around it, the second only takes away those in front, and the
third those on both sides again.

* `allowed_covered`, `rowProducing_apart`: what the tables have to agree on.
* `yieldsRows_admitted`: of the statements that the policy admits, those without
  rows are the ones that begin with USE.
* `rowless_consistent`: how a statement whose first result has no rows is
  answered, and that a rehearsal takes the same statements for such.
-/
namespace SqlGuard.Server

open Text Policy

/-! ## Tables of words -/

/-- A statement may begin with USE, or with a word that asks for rows. -/
theorem allowed_covered : ∀ word ∈ allowed, word = "USE" ∨
    ∃ begun ∈ Link.rowProducing, begun.toList <+: word.toList := by
  decide

theorem rowProducing_allowed : ∀ word ∈ Link.rowProducing, word ∈ allowed := by
  decide

/-- No text begins with USE and with a word that asks for rows. -/
theorem rowProducing_apart {text : List Char} (huse : "USE".toList <+: text) :
    ∀ word ∈ Link.rowProducing, ¬word.toList <+: text := by
  have hapart : ∀ word ∈ Link.rowProducing,
      ¬word.toList <+: "USE".toList ∧ ¬"USE".toList <+: word.toList := by
    decide
  intro word hword hbegins
  obtain ⟨hshort, hlong⟩ := hapart word hword
  rcases List.prefix_or_prefix_of_prefix hbegins huse with h | h
  · exact hshort h
  · exact hlong h

/-- The blanks behind a text do not matter to its first word. -/
theorem yieldsRows_iff (sql : String) : Link.yieldsRows sql = true ↔
    ∃ word ∈ Link.rowProducing, word.toList <+: normalized sql := by
  simp only [Link.yieldsRows, List.any_eq_true, List.isPrefixOf_iff_prefix]
  refine exists_congr fun word => and_congr_right fun hword => ?_
  exact (prefix_normalized (List.mem_append_left _ (rowProducing_allowed word hword))).symm

theorem yieldsRows_admitted {sql : String} (h : classify sql = .admitted) :
    Link.yieldsRows sql = false ↔ "USE".toList <+: normalized sql := by
  rw [← Bool.not_eq_true, yieldsRows_iff]
  constructor
  · intro hnone
    have hbegins := ((classify_admitted sql).mp h).1
    simp only [beginsAllowed, List.any_eq_true, List.isPrefixOf_iff_prefix] at hbegins
    obtain ⟨word, hword, hprefix⟩ := hbegins
    rcases allowed_covered word hword with rfl | ⟨begun, hbegun, hbefore⟩
    · exact hprefix
    · exact absurd ⟨begun, hbegun, hbefore.trans hprefix⟩ hnone
  · rintro huse ⟨word, hword, hprefix⟩
    exact rowProducing_apart huse word hword hprefix

end SqlGuard.Server

namespace SqlGuard.Rehearsal

open Policy

/-- A rehearsal takes the same statements as a link for those with rows. -/
theorem asksForRows_eq (sql : String) : asksForRows sql = Server.Link.yieldsRows sql := by
  rw [Bool.eq_iff_iff, Server.yieldsRows_iff]
  simp only [asksForRows, List.any_eq_true, List.isPrefixOf_iff_prefix]
  rfl

theorem defaultAnswer_hasRows (sql : String) :
    (defaultAnswer sql).hasRows = Server.Link.yieldsRows sql := by
  rw [← asksForRows_eq, defaultAnswer]
  cases asksForRows sql <;> rfl

end SqlGuard.Rehearsal

namespace SqlGuard.Server

open Text Policy

namespace Link

/-! ## Answers without rows -/

/-- The answer to a statement whose first result has no rows, when this is what is known of its
columns. -/
structure Rowless (sql : String) (known : Option (List Column)) (answer : Answer) : Prop where
  /-- It is a command if it has no columns, or if nothing but its first word is known. -/
  command : answer.isCommand = true ↔
    known = some [] ∨ known = none ∧ "USE".toList <+: normalized sql
  /-- Otherwise it is a table of the columns that are known. -/
  rows : answer.rows = []
  columns : answer.columns = known.getD []

theorem rowlessAnswer_command (sql : String) (known : Option (List Column)) (affected : Nat) :
    (rowlessAnswer sql known affected).isCommand = true ↔
      known = some [] ∨ known = none ∧ yieldsRows sql = false := by
  unfold rowlessAnswer
  match known with
  | some [] => simp [Answer.isCommand, Answer.command]
  | some (column :: columns) => simp [Answer.isCommand, Answer.table]
  | none => cases yieldsRows sql <;> simp [Answer.isCommand, Answer.table, Answer.command]

theorem execute_rowless {l : Link} {sql : String} {results : List ResultSet}
    (hadmitted : classify sql = .admitted) (hopen : l.isOpen = true) (halive : l.alive = true)
    (hread : readReply l.upcoming.reply = .ok results) (hrows : (firstOf results).rows = []) :
    ∃ answer, (l.execute sql).result = .ok answer ∧ Rowless sql (l.description sql) answer := by
  have hanswer : (l.execute sql).result =
      .ok (answerOf sql (firstOf results) (l.description sql)) := by
    rw [execute, if_pos hopen, send_alive halive, hread, ← describeRowless_sent halive sql hrows]
  obtain ⟨hnone, hcolumns⟩ := rowlessAnswer_spec sql (l.description sql) (firstOf results).affected
  refine ⟨_, hanswer, ?_, ?_, ?_⟩
  · rw [← yieldsRows_admitted hadmitted, ← rowlessAnswer_command sql _ (firstOf results).affected,
      answerOf, hrows]
    rfl
  · rw [answerOf, hrows]
    exact hnone
  · rw [answerOf, hrows]
    exact hcolumns

end Link

/-- Of the statements that the policy admits, the ones without rows are those that begin with USE.
So an admitted statement whose first result has no rows is answered as a command just if it is
described without columns, or cannot be described and begins with USE, and else by a table of its
columns without rows. A rehearsal answers any statement that it does not list by its first word in
the same way. -/
theorem rowless_consistent :
    (∀ sql, classify sql = .admitted →
      (Link.yieldsRows sql = false ↔ "USE".toList <+: normalized sql)) ∧
    (∀ (l : Link) (sql : String) (results : List ResultSet), classify sql = .admitted →
      l.isOpen = true → l.alive = true → readReply l.upcoming.reply = .ok results →
      (Link.firstOf results).rows = [] →
      ∃ answer, (l.execute sql).result = .ok answer ∧
        Link.Rowless sql (l.description sql) answer) ∧
    ∀ sql, (Rehearsal.defaultAnswer sql).hasRows = Link.yieldsRows sql := by
  refine ⟨fun sql => yieldsRows_admitted, ?_, Rehearsal.defaultAnswer_hasRows⟩
  intro l sql results hadmitted hopen halive hread hrows
  exact Link.execute_rowless hadmitted hopen halive hread hrows

/-- A server that changes two rows and describes nothing. -/
def taciturn : Link :=
  ⟨true, true, [⟨[.done 2], .error notDescribable⟩], .plain, [], []⟩

theorem taciturn_rowless :
    (∃ answer, (taciturn.execute " use shop ").result = .ok answer ∧ answer.isCommand = true) ∧
    (∃ answer, (taciturn.execute "SHOW TABLES").result = .ok answer ∧ answer.isCommand = false ∧
      answer.rows = [] ∧ answer.columns = []) ∧
    (Rehearsal.defaultAnswer "SHOW TABLES").hasRows = Link.yieldsRows "SHOW TABLES" := by
  have hread : readReply taciturn.upcoming.reply = .ok [⟨2, [], []⟩] := rfl
  have hunknown : ∀ sql, taciturn.description sql = none := fun _ => rfl
  obtain ⟨-, hrowless, hdefault⟩ := rowless_consistent
  refine ⟨?_, ?_, hdefault _⟩
  · obtain ⟨answer, hok, hanswer⟩ :=
      hrowless taciturn " use shop " _ (by decide +kernel) rfl rfl hread rfl
    exact ⟨answer, hok, hanswer.command.mpr (.inr ⟨hunknown _, by decide +kernel⟩)⟩
  · obtain ⟨answer, hok, hanswer⟩ :=
      hrowless taciturn "SHOW TABLES" _ (by decide +kernel) rfl rfl hread rfl
    refine ⟨answer, hok, ?_, hanswer.rows, hanswer.columns.trans (by rw [hunknown]; rfl)⟩
    rw [← Bool.not_eq_true, hanswer.command, hunknown]
    decide +kernel

end SqlGuard.Server
