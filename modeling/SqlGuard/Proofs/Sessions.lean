import SqlGuard.Proofs.Conversation

/-!
# Outlines of whole sessions

A session of one statement makes its requests first and shows their outcome
behind them (`runOnce_eq`, `perform_does`). A session at the prompt makes the
requests of some rounds and closes the client that is still open
(`runInteractive_outline`). Sessions that follow each other are single sessions,
each begun with the client that the one before has left (`runAll_eq`).
-/
namespace SqlGuard

variable {κ σ : Type}

/-- The result that a statement gives its session. -/
def Execution.verdict (execution : Execution) : Except Fault Unit :=
  match execution.fault? with
  | some fault => .error fault
  | none => .ok ()

namespace Standing

open Outline

variable (s : Supplier κ σ) (e : Endpoint)

/-- What a single statement shows and results in, and what it asks of the supplier. -/
def single (sql : String) (st : Standing κ σ) : (String × Except Fault Unit) × Outline κ σ :=
  match Policy.classify sql with
  | .rejected reason => ((Screen.rejectionNotice reason, .error (.rejected reason)), still st)
  | .admitted =>
    let reply := s.connect e st.world
    match reply.result with
    | .error fault =>
      (("Error: " ++ fault.message, .error fault), ⟨[.refused fault], ⟨reply.state, st.held⟩⟩)
    | .ok client =>
      let run := Execution.run s client sql reply.state
      ((shown run.outcome, run.outcome.verdict),
        ⟨[.connected client, .executed client sql, .closed client],
          ⟨(s.close client run.state).state, st.held⟩⟩)

end Standing

namespace Session

open Act Outline Standing

variable (s : Supplier κ σ) (e : Endpoint)

/-! ## One statement -/

/-- All of a single statement but showing its outcome. -/
def perform (sql : String) : Act κ σ (String × Except Fault Unit) :=
  match Policy.classify sql with
  | .rejected reason => do
    note .info target ("Rejected single-shot query: " ++ reason.text)
    done (Screen.rejectionNotice reason, .error (.rejected reason))
  | .admitted => do
    match ← connect s e with
    | .error fault => done ("Error: " ++ fault.message, .error fault)
    | .ok client => do
      let execution ← execute s client sql
      release s target client
      done (shown execution, execution.verdict)

/-- Ends with a result. -/
def conclude : Except Fault Unit → Act κ σ Unit
  | .ok _ => done ()
  | .error fault => fail fault

theorem settle_eq (execution : Execution) :
    (settle execution : Act κ σ Unit) = conclude execution.verdict := by
  cases execution <;> rfl

/-- The outcome of a single statement is shown in the end, whatever it is. -/
theorem runOnce_eq (sql : String) : runOnce s e sql = (do
    let outcome ← perform s e sql
    say outcome.1
    conclude outcome.2) := by
  unfold runOnce perform
  cases Policy.classify sql with
  | rejected reason => rfl
  | admitted =>
    simp only [bind_bind]
    congr 1
    funext r
    cases r with
    | error fault => rfl
    | ok client => simp only [bind_bind, report_eq, settle_eq, done_bind]

theorem perform_does (sql : String) : Does (perform s e sql) fun st => st.single s e sql := by
  unfold perform Standing.single
  cases h : Policy.classify sql with
  | rejected reason => exact ((Does.note _ _ _).bind fun _ => Does.done _).congr fun st => rfl
  | admitted =>
    have key (r : Except Fault κ) : Does
        (match r with
          | .error fault => done ("Error: " ++ fault.message, .error fault)
          | .ok client => do
            let execution ← execute s client sql
            release s target client
            done (shown execution, execution.verdict))
        fun st => match r with
          | .error fault => (("Error: " ++ fault.message, .error fault), still st)
          | .ok client =>
            let run := Execution.run s client sql st.world
            ((shown run.outcome, run.outcome.verdict),
              ⟨[.executed client sql, .closed client],
                ⟨(s.close client run.state).state, st.held⟩⟩) := by
      cases r with
      | error fault => exact Does.done _
      | ok client =>
        exact ((execute_does s h client).bind fun execution => (release_does s client).bind fun _ =>
          Does.done (shown execution, execution.verdict)).congr fun st => rfl
    refine ((connect_does s e).bind key).congr fun st => ?_
    dsimp only
    cases (s.connect e st.world).result <;> rfl

theorem conclude_still (result : Except Fault Unit) : Still (conclude result : Act κ σ Unit) := by
  cases result with
  | ok _ => exact Still.done ()
  | error fault => exact Still.fail fault

theorem runOnce_outline (sql : String) (desk : Desk κ σ) :
    (runOnce s e sql desk).outline = (desk.standing.single s e sql).2 := by
  rw [runOnce_eq, (perform_does s e sql).bind_outline,
    (Still.say _).bind (fun _ => conclude_still _), (perform_does s e sql).standing]
  exact next_still _

/-! ## A session at the prompt -/

/-- Closing the open client in any case adds to the outline what it takes, and nothing to the
output. -/
theorem andThen_disconnect (act : Act κ σ Unit) (desk : Desk κ σ) :
    (act.andThen (disconnect s) desk).outline = (act desk).outline.next (dismiss s) ∧
      outputOf (act.andThen (disconnect s) desk).events = outputOf (act desk).events := by
  have hd := disconnect_does s
  constructor
  · show ((disconnect s (act desk).desk).after (act desk).events).outline = _
    rw [Stage.after_outline, hd.outline]
    rfl
  · show outputOf ((act desk).events ++ (disconnect s (act desk).desk).events) = _
    rw [outputOf_append, hd.output, List.append_nil]

/-- The client that some rounds leave open is closed in the end. -/
theorem runInteractive_outline (input : Input) (desk : Desk κ σ) :
    ∃ n, (runInteractive s e input desk).outline =
      (desk.standing.rounds s e n input.lines).next (dismiss s) := by
  have hs := Still.say (κ := κ) (σ := σ) (Screen.banner e)
  unfold runInteractive
  rw [(andThen_disconnect s _ desk).1]
  cases hr : (say (κ := κ) (σ := σ) (Screen.banner e) desk).result with
  | error fault => exact ⟨0, by rw [bind_error hr]; exact congrArg (·.next (dismiss s)) (hs desk)⟩
  | ok _ =>
    obtain ⟨n, hn⟩ := converse_outline s e input.ending input.lines
      (say (Screen.banner e) desk).desk
    exact ⟨n, by rw [bind_outline hr, hs, hn, hs.standing, still_next]⟩

theorem runInteractive_unlimited (input : Input) {desk : Desk κ σ}
    (ht : desk.terminal = .unlimited) :
    (runInteractive s e input desk).outline =
        (desk.standing.rounds s e (input.lines.length + 1) input.lines).next (dismiss s) ∧
      outputOf (runInteractive s e input desk).events =
        octetsOf [Screen.banner e] ++ screen s e input.ending input.lines desk.standing := by
  have hp := Plays.write (κ := κ) (σ := σ) (Screen.banner e ++ "\n")
  have hr : (say (Screen.banner e) desk).result = _ := hp.result desk ht
  have hs : (say (Screen.banner e) desk).desk.standing = desk.standing := hp.standing ht
  obtain ⟨ho, hout⟩ := converse_unlimited s e input.ending input.lines _ (hp.terminal desk ht)
  have ha := andThen_disconnect s
    (do say (Screen.banner e); converse s e input.ending input.lines) desk
  constructor
  · refine ha.1.trans ?_
    rw [bind_outline hr, Still.say, still_next]
    rw [hp.standing ht] at ho
    exact congrArg (·.next (dismiss s)) ho
  · refine ha.2.trans ?_
    rw [bind_ok hr, Stage.after, outputOf_append]
    rw [hp.standing ht] at hout
    refine congr (congrArg _ ((hp.output desk ht).trans ?_)) hout
    simp [octetsOf]

theorem dismiss_held (st : Standing κ σ) : (st.dismiss s).standing.held = none := by
  unfold dismiss
  split
  · assumption
  · rfl

theorem single_asked (sql : String) (st : Standing κ σ) :
    Asked s e sql (st.single s e sql).2.marks := by
  unfold single
  cases h : Policy.classify sql with
  | rejected reason => exact .nothing h
  | admitted =>
    dsimp only
    cases hr : (s.connect e st.world).result with
    | error fault => exact .refused h hr
    | ok client => exact .served h client (.inr rfl) (.inr rfl)

theorem single_held (sql : String) (st : Standing κ σ) :
    (st.single s e sql).2.standing.held = st.held := by
  unfold single
  cases Policy.classify sql with
  | rejected reason => rfl
  | admitted =>
    dsimp only
    cases (s.connect e st.world).result <;> rfl

/-- The client that is open is closed when the session ends, and a single statement keeps none. -/
theorem run_held (session : Session) {desk : Desk κ σ} (h : desk.held = none) :
    (session.run s e desk).desk.held = none := by
  cases session with
  | once sql =>
    have ho := congrArg (·.standing.held) (runOnce_outline s e sql desk)
    exact ho.trans ((single_held s e sql desk.standing).trans h)
  | interactive input =>
    obtain ⟨n, hn⟩ := runInteractive_outline s e input desk
    exact (congrArg (·.standing.held) hn).trans (dismiss_held s _)

/-! ## Sessions in a row -/

/-- Each session with the desk that it begins at. -/
def starts (s : Supplier κ σ) (e : Endpoint) :
    List (Session × Terminal) → σ → Option κ → List (Session × Desk κ σ)
  | [], _, _ => []
  | (session, terminal) :: rest, world, client =>
    let stage := session.run s e ⟨world, client, terminal⟩
    (session, ⟨world, client, terminal⟩) :: starts s e rest stage.desk.world stage.desk.held

theorem starts_sessions (sessions : List (Session × Terminal)) (world : σ) (client : Option κ) :
    (starts s e sessions world client).map Prod.fst = sessions.map Prod.fst := by
  induction sessions generalizing world client with
  | nil => rfl
  | cons first rest ih => rw [starts, List.map_cons, List.map_cons, ih]

theorem runAll_eq (sessions : List (Session × Terminal)) (world : σ) (client : Option κ) :
    runAll s e sessions world client =
      (starts s e sessions world client).map fun begun => begun.1.run s e begun.2 := by
  induction sessions generalizing world client with
  | nil => rfl
  | cons first rest ih =>
    rw [runAll, starts, List.map_cons, ih]

theorem starts_held (sessions : List (Session × Terminal)) (world : σ) :
    ∀ begun ∈ starts s e sessions world none, begun.2.held = none := by
  induction sessions generalizing world with
  | nil => intro begun h; cases h
  | cons first rest ih =>
    intro begun h
    rcases List.mem_cons.mp h with rfl | h
    · rfl
    · rw [run_held s e first.1 rfl] at h
      exact ih _ begun h

end Session

end SqlGuard
