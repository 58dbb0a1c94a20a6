import SqlGuard.Proofs.History
import SqlGuard.Proofs.Words
import SqlGuard.Rehearsal

/-!
# One statement in both modes

A statement typed at a fresh prompt shows what it shows as a single statement,
and asks the same of the supplier. At the prompt its client is kept, and closed
only at the end of the input; as a single statement it is closed at once. The
closing is all that comes later (`answer_single`).

* `runInteractive_runOnce`: between the banner with the first prompt and the
  second prompt with the farewell, a session of one line shows what the single
  statement shows, and their requests are the same.
-/
namespace SqlGuard

open Text

variable {κ σ : Type}

namespace Standing

open Outline

variable (s : Supplier κ σ) (e : Endpoint)

/-- With no client open, a statement at the prompt is a single statement whose client is closed
later. -/
theorem answer_single (sql : String) (st : Standing κ σ) (h : st.held = none) :
    (st.answer s e sql).1 = (st.single s e sql).1.1 ∧
      (st.answer s e sql).2.next (dismiss s) = (st.single s e sql).2 := by
  obtain ⟨world, client⟩ := st
  cases h
  unfold answer single
  cases Policy.classify sql with
  | rejected reason => exact ⟨rfl, rfl⟩
  | admitted =>
    simp only [Standing.client]
    cases hr : (s.connect e world).result with
    | error fault => exact ⟨rfl, rfl⟩
    | ok client =>
      refine ⟨rfl, ?_⟩
      simp only [execute]
      cases hl : (Execution.run s client sql (s.connect e world).state).outcome.losesClient <;>
        simp [Outline.next, mark, still, dismiss, hl, Event.attempt, Except.toOption]

end Standing

/-- The line of a text has the text as its statement, and nothing else follows it. -/
theorem Input.lines_of_text {input : Input} {text : String} (h : '\n' ∉ text.toList)
    (hi : input.chunks.flatten = Utf8.encodeString (text ++ "\n")) :
    input.lines = [Utf8.encodeString (text ++ "\n")] := by
  have hc : Cut input.chunks.flatten [Utf8.encodeString (text ++ "\n")] [] := by
    rw [hi, Utf8.encodeString_append, Utf8.encodeString_newline]
    exact Cut.line (Utf8.newline_not_mem_encodeString h)
  rw [Input.lines_of_cut hc, if_neg (by simp)]

namespace Session

open Act Outline Standing

variable (s : Supplier κ σ) (e : Endpoint)

theorem runOnce_output (sql : String) {desk : Desk κ σ} (ht : desk.terminal = .unlimited) :
    outputOf (runOnce s e sql desk).events =
      octetsOf [(desk.standing.single s e sql).1.1] := by
  have hp := perform_does s e sql
  have hc (result : Except Fault Unit) (desk : Desk κ σ) :
      outputOf (conclude result desk).events = [] := by
    cases result <;> rfl
  have hw := Plays.write (κ := κ) (σ := σ) ((desk.standing.single s e sql).1.1 ++ "\n")
  have ht' : (perform s e sql desk).desk.terminal = .unlimited := (hp.terminal desk).trans ht
  have hr : (say (desk.standing.single s e sql).1.1 (perform s e sql desk).desk).result = .ok () :=
    hw.result _ ht'
  rw [runOnce_eq, bind_ok (hp.result desk), Stage.after, outputOf_append, hp.output desk,
    bind_ok hr, Stage.after, outputOf_append, hc, List.append_nil]
  refine (hw.output _ ht').trans ?_
  simp [octetsOf]

theorem runOnce_requests (sql : String) (desk : Desk κ σ) :
    requestsOf (runOnce s e sql desk).events = (desk.standing.single s e sql).2.marks := by
  rw [← requestsOf_marksOf]
  show requestsOf (runOnce s e sql desk).outline.marks = _
  rw [runOnce_outline, requestsOf_eq_self (single_asked s e sql desk.standing).requests]

/-- A statement typed as the only line shows what it shows as a single statement, after the banner
and a prompt and before another prompt and the farewell, and makes the same requests. -/
theorem runInteractive_runOnce (sql : String) (input : Input) (world : σ)
    (hline : '\n' ∉ sql.toList) (htrim : trim sql.toList = sql.toList) (hne : sql ≠ "")
    (hword : String.ofList (sql.toList.map asciiSmall) ∉ ["exit", "quit", "help"])
    (hinput : input.chunks.flatten = Utf8.encodeString (sql ++ "\n"))
    (hending : input.ending = .exhausted) :
    let typed := runInteractive s e input ⟨world, none, .unlimited⟩
    let single := runOnce s e sql ⟨world, none, .unlimited⟩
    outputOf typed.events = Utf8.encodeString (Screen.banner e ++ "\n" ++ Screen.prompt) ++
        outputOf single.events ++
        Utf8.encodeString ("\n" ++ Screen.prompt ++ "\n" ++ Screen.farewell ++ "\n") ∧
      requestsOf typed.events = requestsOf single.events := by
  intro typed single
  let st : Standing κ σ := ⟨world, none⟩
  let line := Utf8.encodeString (sql ++ "\n")
  have hlines : input.lines = [line] := Input.lines_of_text hline hinput
  have hdecode : Utf8.decodeString line = .ok (sql ++ "\n") := Utf8.decodeString_encodeString _
  have hquery := ofLine_query htrim hne hword
  have hreply : st.reply s e line = ([(st.answer s e sql).1, ""], (st.answer s e sql).2) := by
    simp only [reply, hdecode, hquery]
  have hleaves : Line.leaves line = false := by
    simp only [Line.leaves, hdecode, hquery]
  have htexts : handledTexts [line] = (Line.admitted? line).toList := by
    rw [handledTexts_cons, hleaves]
    exact List.append_nil _
  obtain ⟨hshown, hasked⟩ := answer_single s e sql st rfl
  have ht : (Desk.mk world none .unlimited : Desk κ σ).terminal = .unlimited := rfl
  constructor
  · refine (runInteractive_unlimited s e input ht).2.trans ?_
    rw [hlines, hending, runOnce_output s e sql ht, screen, hleaves, screen]
    show _ ++ (_ ++ octetsOf (st.reply s e line).1 ++ _) =
      _ ++ octetsOf [(st.single s e sql).1.1] ++ _
    rw [hreply, hshown]
    simp [octetsOf, goodbye, Utf8.encodeString_append, Utf8.encodeString_empty]
  · have hr := runInteractive_requests s e input ht
    rw [hlines, htexts, ← reply_answers] at hr
    refine hr.trans ((congrArg Outline.marks ?_).trans (runOnce_requests s e sql _).symm)
    show (st.reply s e line).2.next (dismiss s) = (st.single s e sql).2
    rw [hreply]
    exact hasked

/-- The line of a statement that arrives in two parts. -/
theorem show_tables_typed :
    let desk : Desk Unit Unit := ⟨(), none, .unlimited⟩
    let supplier := Rehearsal.answering []
    let input : Input := ⟨["SHOW ", "TABLES\n"].map Utf8.encodeString, .exhausted⟩
    let typed := runInteractive supplier .standard input desk
    let single := runOnce supplier .standard "SHOW TABLES" desk
    outputOf typed.events = Utf8.encodeString (Screen.banner .standard ++ "\n" ++ Screen.prompt) ++
        outputOf single.events ++
        Utf8.encodeString ("\n" ++ Screen.prompt ++ "\n" ++ Screen.farewell ++ "\n") ∧
      requestsOf typed.events = requestsOf single.events :=
  runInteractive_runOnce (Rehearsal.answering []) .standard "SHOW TABLES"
    ⟨["SHOW ", "TABLES\n"].map Utf8.encodeString, .exhausted⟩ ()
    (by decide) (by decide) (by decide) (by decide) (by decide) rfl

end Session

end SqlGuard
