import SqlGuard.Proofs.Outline
import SqlGuard.Session.Run

/-!
# Outlines of statements

What a statement at the prompt asks of the supplier, as a function of the
standing: `Standing.answer`. It is made of `Standing.client`, which opens a
client if none is open, `Standing.execute`, and `Standing.dismiss`, which closes
the client whose connection is lost.

* `attend_does`: all of a statement at the prompt but showing its outcome is
  `Standing.answer`; `handleQuery_eq` shows the outcome behind it.
* `answer_asked`: all that a statement can ask of the supplier.
-/
namespace SqlGuard

variable {κ σ : Type}

/-! ## What requests do to a standing -/

namespace Standing

open Outline

variable (s : Supplier κ σ) (e : Endpoint)

/-- Closes the open client, if there is one. -/
def dismiss (st : Standing κ σ) : Outline κ σ :=
  match st.held with
  | none => still st
  | some client => ⟨[.closed client], ⟨(s.close client st.world).state, none⟩⟩

/-- The open client, or else a new one. -/
def client (st : Standing κ σ) : Except Fault κ × Outline κ σ :=
  match st.held with
  | some client => (.ok client, still st)
  | none =>
    let reply := s.connect e st.world
    (reply.result, ⟨[.attempt reply.result], ⟨reply.state, reply.result.toOption⟩⟩)

/-- Runs an admitted statement on the open client, and closes it if its connection is lost. -/
def execute (client : κ) (sql : String) (st : Standing κ σ) : Execution × Outline κ σ :=
  let run := Execution.run s client sql st.world
  let after : Standing κ σ := ⟨run.state, st.held⟩
  (run.outcome,
    mark (.executed client sql) (if run.outcome.losesClient then after.dismiss s else still after))

/-- The text that tells the outcome of a statement. -/
def shown : Execution → String
  | .success answer elapsed => Screen.outcome answer elapsed
  | .rejected _ reason => Screen.rejectionNotice reason
  | .failed fault => Screen.failure fault

/-- What is shown for a statement, and what it asks of the supplier. -/
def answer (sql : String) (st : Standing κ σ) : String × Outline κ σ :=
  match Policy.classify sql with
  | .rejected reason => (Screen.rejectionNotice reason, still st)
  | .admitted =>
    match st.client s e with
    | (.error fault, o) => ("Error: " ++ fault.message, o)
    | (.ok client, o) => (shown (execute s client sql o.standing).1,
        o.next fun st => (execute s client sql st).2)

/-- All that a statement can ask of the supplier. -/
inductive Asked (sql : String) : List (Event κ) → Prop
  | nothing {reason : Policy.Rejection} (h : Policy.classify sql = .rejected reason) : Asked sql []
  | refused (h : Policy.classify sql = .admitted) {fault : Fault} {world : σ}
    (hr : (s.connect e world).result = .error fault) : Asked sql [.refused fault]
  | served (h : Policy.classify sql = .admitted) (client : κ) {opening closing : List (Event κ)}
    (ho : opening = [] ∨ opening = [.connected client])
    (hc : closing = [] ∨ closing = [.closed client]) :
    Asked sql (opening ++ .executed client sql :: closing)

theorem Asked.requests {sql : String} {es : List (Event κ)} (h : Asked s e sql es) :
    ∀ ev ∈ es, ev.isRequest = true := by
  cases h with
  | nothing _ => simp
  | refused _ _ => simp [Event.isRequest]
  | served _ client ho hc =>
    rcases ho with rfl | rfl <;> rcases hc with rfl | rfl <;> simp [Event.isRequest]

/-- After a client was asked for and given, it is the one that is kept. -/
theorem client_held {st : Standing κ σ} {client : κ} {o : Outline κ σ}
    (h : st.client s e = (.ok client, o)) : o.standing.held = some client := by
  unfold Standing.client at h
  split at h
  · rename_i hh
    cases h
    exact hh
  · dsimp only at h
    cases hr : (s.connect e st.world).result with
    | error fault => rw [hr] at h; cases h
    | ok c => rw [hr] at h; cases h; rfl

theorem dismiss_requests (st : Standing κ σ) :
    ∀ ev ∈ (st.dismiss s).marks, ev.isRequest = true := by
  unfold dismiss
  split <;> simp [still, Event.isRequest]

theorem client_marks {st : Standing κ σ} {result : Except Fault κ} {o : Outline κ σ}
    (h : st.client s e = (result, o)) :
    o.marks = [.attempt result] ∧ (s.connect e st.world).result = result ∨
      o.marks = [] ∧ ∃ client, result = .ok client := by
  unfold Standing.client at h
  split at h
  · rename_i client _
    cases h
    exact .inr ⟨rfl, client, rfl⟩
  · cases h
    exact .inl ⟨rfl, rfl⟩

theorem execute_marks (client : κ) (sql : String) {st : Standing κ σ}
    (h : st.held = some client) :
    ∃ closing, (closing = [] ∨ closing = [.closed client]) ∧
      (st.execute s client sql).2.marks = .executed client sql :: closing := by
  unfold Standing.execute
  dsimp only
  split
  · exact ⟨_, .inr rfl, by simp [mark, dismiss, h]⟩
  · exact ⟨_, .inl rfl, rfl⟩

theorem answer_asked (sql : String) (st : Standing κ σ) :
    Asked s e sql (st.answer s e sql).2.marks := by
  unfold answer
  cases h : Policy.classify sql with
  | rejected reason => exact .nothing h
  | admitted =>
    dsimp only
    split
    · rename_i fault o hr
      rcases client_marks s e hr with ⟨hm, hc⟩ | ⟨-, client, hc⟩
      · exact hm ▸ .refused h hc
      · cases hc
    · rename_i client o hr
      obtain ⟨closing, hc, he⟩ := execute_marks s client sql (client_held s e hr)
      show Asked s e sql (o.marks ++ (execute s client sql o.standing).2.marks)
      rw [he]
      refine .served h client ?_ hc
      rcases client_marks s e hr with ⟨hm, -⟩ | ⟨hm, -⟩
      · exact .inr hm
      · exact .inl hm

end Standing

namespace Session

open Act Outline

variable (s : Supplier κ σ) (e : Endpoint)

theorem release_does (client : κ) : Does (release s target client) fun st =>
    ((), ⟨[.closed client], ⟨(s.close client st.world).state, st.held⟩⟩) where
  result _ := rfl
  outline desk := by
    unfold release Stage.outline
    cases h : (s.close client desk.world).result <;>
      simp [marksOf_cons, Event.isMark, h, Desk.standing]
  terminal _ := rfl
  silent desk octets := by
    unfold release
    cases h : (s.close client desk.world).result <;> simp [h]

theorem connect_does : Does (connect s e) fun st =>
    ((s.connect e st.world).result,
      ⟨[.attempt (s.connect e st.world).result], ⟨(s.connect e st.world).state, st.held⟩⟩) where
  result _ := rfl
  outline desk := by
    unfold connect Stage.outline
    cases h : (s.connect e desk.world).result <;>
      simp [marksOf_cons, Event.isMark, Event.attempt, h, Desk.standing]
  terminal _ := rfl
  silent desk octets := by
    unfold connect
    cases h : (s.connect e desk.world).result <;> simp [h]

/-- Past the policy, an execution is one request. -/
theorem execute_does {sql : String} (h : Policy.classify sql = .admitted) (client : κ) :
    Does (execute s client sql) fun st =>
      let run := Execution.run s client sql st.world
      (run.outcome, ⟨[.executed client sql], ⟨run.state, st.held⟩⟩) where
  result _ := rfl
  outline desk := by
    unfold execute Execution.run Stage.outline
    cases hr : (s.execute client sql desk.world).result <;>
      simp [h, hr, marksOf_cons, Event.isMark, Desk.standing]
  terminal _ := rfl
  silent desk octets := by
    unfold execute Execution.run
    cases hr : (s.execute client sql desk.world).result <;> simp [h, hr]

theorem disconnect_does : Does (disconnect s) fun st => ((), st.dismiss s) where
  result := by rintro ⟨world, _ | client, t⟩ <;> rfl
  outline := by
    rintro ⟨world, _ | client, t⟩
    · rfl
    · exact (release_does s client).outline ⟨world, none, t⟩
  terminal := by rintro ⟨world, _ | client, t⟩ <;> rfl
  silent := by
    rintro ⟨world, _ | client, t⟩ octets
    · exact List.not_mem_nil
    · exact (release_does s client).silent ⟨world, none, t⟩ octets

/-- A new client is kept. -/
theorem keep_does (r : Except Fault κ) : Does
    (match r with
      | .error fault => done (.error fault)
      | .ok client => do
        note .info target ("Connected to " ++ e.display)
        hold (some client)
        done (.ok client) : Act κ σ (Except Fault κ))
    fun st => (r, still ⟨st.world, r.toOption.or st.held⟩) where
  result desk := by cases r <;> rfl
  outline desk := by cases r <;> rfl
  terminal desk := by cases r <;> rfl
  silent desk octets := by
    cases r with
    | error fault => exact List.not_mem_nil
    | ok client => exact (Does.note _ _ _).silent desk octets

theorem client_does : Does (Session.client s e) fun st => st.client s e := by
  have h := (connect_does s e).bind (keep_does (σ := σ) e)
  refine ⟨?_, ?_, ?_, ?_⟩ <;> rintro ⟨world, _ | client, t⟩
  · exact h.result ⟨world, none, t⟩
  · rfl
  · refine (h.outline ⟨world, none, t⟩).trans ?_
    simp [Standing.client, Desk.standing, Outline.next, still]
  · rfl
  · exact h.terminal ⟨world, none, t⟩
  · rfl
  · exact h.silent ⟨world, none, t⟩
  · exact fun _ => List.not_mem_nil

/-! ### A statement at the prompt -/

/-- Runs a statement on the open client, and drops the client if its connection is lost. -/
def serve (client : κ) (sql : String) : Act κ σ Execution := do
  let execution ← execute s client sql
  if execution.losesClient then
    note .warn target "Dropping session after connection failure"
    disconnect s
  done execution

/-- All of a statement at the prompt but showing its outcome. -/
def attend (sql : String) : Act κ σ String :=
  match Policy.classify sql with
  | .rejected reason => do
    note .info target ("Rejected interactive query: " ++ reason.text)
    done (Screen.rejectionNotice reason)
  | .admitted => do
    match ← client s e with
    | .error fault => done ("Error: " ++ fault.message)
    | .ok client => do
      let execution ← serve s client sql
      done (Standing.shown execution)

theorem report_eq (execution : Execution) :
    (report execution : Act κ σ Unit) = say (Standing.shown execution) := by
  cases execution <;> rfl

/-- The outcome of a statement is shown in the end, whatever it is. -/
theorem handleQuery_eq (sql : String) : handleQuery s e sql = attend s e sql >>= say := by
  unfold handleQuery attend
  cases Policy.classify sql with
  | rejected reason => rfl
  | admitted =>
    simp only [bind_bind, serve]
    congr 1
    funext r
    cases r with
    | error fault => rfl
    | ok client =>
      simp only [bind_bind]
      congr 1
      funext execution
      split <;> simp only [bind_bind, report_eq, done_bind]

theorem serve_does {sql : String} (h : Policy.classify sql = .admitted) (client : κ) :
    Does (serve s client sql) fun st => st.execute s client sql := by
  have drop (execution : Execution) :=
    ((Does.note .warn target "Dropping session after connection failure").bind fun _ =>
      disconnect_does s).bind fun _ => Does.done execution
  have key (execution : Execution) : Does
      (if execution.losesClient then do
        note .warn target "Dropping session after connection failure"
        disconnect s
        done execution
      else done execution)
      fun st => (execution, if execution.losesClient then st.dismiss s else still st) := by
    cases execution.losesClient with
    | false => exact Does.done execution
    | true => exact (bind_bind .. ▸ drop execution).congr fun st => by simp
  exact ((execute_does s h client).bind key).congr fun st => rfl

theorem attend_does (sql : String) : Does (attend s e sql) fun st => st.answer s e sql := by
  unfold attend Standing.answer
  cases h : Policy.classify sql with
  | rejected reason =>
    exact ((Does.note _ _ _).bind fun _ => Does.done _).congr fun st => rfl
  | admitted =>
    have key (r : Except Fault κ) : Does
        (match r with
          | .error fault => done ("Error: " ++ fault.message)
          | .ok client => do
            let execution ← serve s client sql
            done (Standing.shown execution))
        fun st => match r with
          | .error fault => ("Error: " ++ fault.message, still st)
          | .ok client =>
            (Standing.shown (st.execute s client sql).1, (st.execute s client sql).2) := by
      cases r with
      | error fault => exact Does.done _
      | ok client =>
        exact ((serve_does s h client).bind fun _ => Does.done _).congr fun st => by simp
    refine ((client_does s e).bind key).congr fun st => ?_
    rcases st.client s e with ⟨fault | client, o⟩ <;> simp

end Session

end SqlGuard
