import SqlGuard.Program
import SqlGuard.Proofs.Breakdowns
import SqlGuard.Proofs.Truncation

/-!
# What a failure can do

At the prompt a failure of a statement or of a connection is told, and nothing
else: a session fails only with its terminal, or with its input if it comes to
the end of it (`Ending.verdict`). A single statement has the result of what it
asks (`Supplier.asked`). So the status of a program tells a rejected statement
from all other failures, as long as its supplier rejects nothing itself
(`NeverRejects`).

* `runInteractive_contained`, `runOnce_result`: the results of the sessions.
* `failures_contained`: the results of sessions, and the status of the program.
* `rejected_connection`: a supplier that rejects a connection blurs the status.
-/
namespace SqlGuard

variable {κ σ : Type}

/-- The result of a session at a terminal that never fails: an input that fails does so behind its
lines, if none of them leaves. -/
def Ending.verdict (ending : Ending) (lines : List (List UInt8)) : Except Fault Unit :=
  match ending with
  | .failed detail => if lines.any Line.leaves then .ok () else .error (.io detail)
  | _ => .ok ()

theorem Ending.verdict_cons (ending : Ending) (line : List UInt8) (rest : List (List UInt8)) :
    ending.verdict (line :: rest) =
      if Line.leaves line then .ok () else ending.verdict rest := by
  cases ending <;> cases h : Line.leaves line <;> simp [verdict, h]

namespace Session

open Act Outline Standing

variable (s : Supplier κ σ) (e : Endpoint)

/-! ## A session at the prompt -/

theorem endInput_result (ending : Ending) {desk : Desk κ σ} (ht : desk.terminal = .unlimited) :
    (endInput ending desk).result = ending.verdict [] := by
  cases ending with
  | failed detail => rfl
  | _ => exact (farewell_plays _).result desk ht

/-- No line can fail a conversation. -/
theorem converse_result (ending : Ending) (lines : List (List UInt8)) {desk : Desk κ σ}
    (ht : desk.terminal = .unlimited) :
    (converse s e ending lines desk).result = ending.verdict lines := by
  induction lines generalizing desk with
  | nil =>
    have hp := showPrompt_plays (κ := κ) (σ := σ)
    rw [converse, bind_ok (hp.result desk ht)]
    exact endInput_result ending (hp.terminal desk ht)
  | cons line rest ih =>
    have hp := round_plays s e line
    rw [converse_cons, bind_ok (hp.result desk ht), nextOf, Ending.verdict_cons]
    cases hv : Line.leaves line with
    | true => rfl
    | false => exact ih (hp.terminal desk ht)

/-- A session at the prompt fails with its terminal or with its input, and with nothing else. It
comes to as many prompts as its lines ask for, whatever the supplier answers. -/
theorem runInteractive_contained (input : Input) (st : Standing κ σ) :
    let full := runInteractive s e input (st.desk .unlimited)
    prompts full.events = promptCount input.lines ∧
      ∀ t : Terminal, let result := (runInteractive s e input (st.desk t)).result
        (t.Endures full.events → result = input.ending.verdict input.lines) ∧
          (¬t.Endures full.events → result = .error (.io t.fault)) := by
  intro full
  have hb := Plays.write (κ := κ) (σ := σ) (Screen.banner e ++ "\n")
  have hsay : (say (Screen.banner e) (st.desk .unlimited)).result = _ := hb.result _ rfl
  have hfull : full.result = input.ending.verdict input.lines := by
    show (body s e input (st.desk .unlimited)).result = _
    rw [body, bind_ok hsay]
    exact converse_result s e input.ending input.lines (hb.terminal _ rfl)
  refine ⟨runInteractive_flushes s e input st, fun t => ?_⟩
  obtain ⟨_, -, -, hend, hfail⟩ := run_kept s e (.interactive input) st t
  exact ⟨fun h => (hend h).2.trans hfull, hfail⟩

end Session

/-! ## A single statement -/

/-- What a supplier answers to a client that connects and asks one thing. -/
def Supplier.asked (s : Supplier κ σ) (e : Endpoint) (sql : String) (world : σ) :
    Except Fault Answer :=
  let reply := s.connect e world
  match reply.result with
  | .error fault => .error fault
  | .ok client => (s.execute client sql reply.state).result

/-- The supplier leaves rejecting to the policy. -/
structure NeverRejects (s : Supplier κ σ) : Prop where
  connect : ∀ e world reason, (s.connect e world).result ≠ .error (.rejected reason)
  execute : ∀ client sql world reason,
    (s.execute client sql world).result ≠ .error (.rejected reason)

theorem NeverRejects.asked {s : Supplier κ σ} (hs : NeverRejects s) (e : Endpoint) (sql : String)
    (world : σ) (reason : Policy.Rejection) : s.asked e sql world ≠ .error (.rejected reason) := by
  unfold Supplier.asked
  dsimp only
  cases hr : (s.connect e world).result with
  | error fault =>
    intro h
    cases h
    exact hs.connect e world reason hr
  | ok client => exact hs.execute client sql _ reason

namespace Session

open Act Outline Standing

variable (s : Supplier κ σ) (e : Endpoint)

/-- The verdict on a single statement is the policy's, or else the supplier's. -/
theorem single_verdict (sql : String) (st : Standing κ σ) :
    (st.single s e sql).1.2 =
      match Policy.classify sql with
      | .rejected reason => .error (.rejected reason)
      | .admitted => (s.asked e sql st.world).map fun _ => () := by
  unfold single Supplier.asked
  cases hc : Policy.classify sql with
  | rejected reason => rfl
  | admitted =>
    dsimp only
    cases (s.connect e st.world).result with
    | error fault => rfl
    | ok client =>
      dsimp only
      unfold Execution.run
      rw [hc]
      dsimp only
      cases (s.execute client sql (s.connect e st.world).state).result <;> rfl

theorem runOnce_result (sql : String) {desk : Desk κ σ} (ht : desk.terminal = .unlimited) :
    (runOnce s e sql desk).result =
      match Policy.classify sql with
      | .rejected reason => .error (.rejected reason)
      | .admitted => (s.asked e sql desk.world).map fun _ => () := by
  have hp := perform_does s e sql
  have hw := Plays.write (κ := κ) (σ := σ) ((desk.standing.single s e sql).1.1 ++ "\n")
  have hsay :
      (say (desk.standing.single s e sql).1.1 (perform s e sql desk).desk).result = .ok () :=
    hw.result _ ((hp.terminal desk).trans ht)
  have hconclude (result : Except Fault Unit) (desk : Desk κ σ) :
      (conclude result desk).result = result := by
    cases result <;> rfl
  rw [runOnce_eq, bind_ok (hp.result desk), Stage.after, bind_ok hsay, Stage.after, hconclude]
  exact single_verdict s e sql desk.standing

theorem runOnce_rejected (hs : NeverRejects s) (sql : String) {desk : Desk κ σ}
    (ht : desk.terminal = .unlimited) (reason : Policy.Rejection) :
    (runOnce s e sql desk).result = .error (.rejected reason) ↔
      Policy.classify sql = .rejected reason := by
  rw [runOnce_result s e sql ht]
  cases Policy.classify sql with
  | rejected reason' => simp
  | admitted =>
    have ha := hs.asked e sql desk.world reason
    cases hr : s.asked e sql desk.world with
    | ok answer => simp [Except.map]
    | error fault =>
      rw [hr] at ha
      simpa [Except.map] using ha

end Session

/-- The clients of the network leave rejecting to the policy. -/
theorem Server.network_neverRejects : NeverRejects Server.network where
  connect e n reason h := by
    change (Network.connect e n).result = _ at h
    unfold Network.connect at h
    split at h <;> cases h
  execute client sql n reason h := by
    change (Network.ask (Link.execute sql) client n).result = _ at h
    unfold Network.ask at h
    split at h
    · rename_i l _
      change (l.execute sql).result = _ at h
      by_cases ho : l.isOpen = true
      · obtain ⟨b, -, hb⟩ := ((Link.execute_open ho sql).1 _).mp h
        cases hf : b.failure <;> rw [hf] at hb <;> cases hb
      · rw [Link.execute, if_neg ho] at h
        cases h
    · cases h

/-! ## The program -/

namespace Profile

/-- A profile that cannot be loaded is a fault of the configuration. -/
theorem load_error {path : String} {found : Found} {fault : Fault}
    (h : load path found = .error fault) : ∃ detail, fault = .config detail := by
  unfold load at h
  split at h
  · cases h
    exact ⟨_, rfl⟩
  · cases h
    exact ⟨_, rfl⟩
  split at h
  · cases h
    exact ⟨_, rfl⟩
  split at h
  · unfold ofJson at h
    split at h <;> cases h
    exact ⟨_, rfl⟩
  · unfold ofToml at h
    split at h <;> cases h
    exact ⟨_, rfl⟩

end Profile

theorem Invocation.overrides_error {i : Invocation} {fault : Fault}
    (h : i.overrides = .error fault) : ∃ detail, fault = .config detail := by
  unfold overrides at h
  dsimp only at h
  split at h
  · cases h
  rename_i url _
  unfold Overrides.ofConnectionString at h
  cases hr : ConnectionString.read url with
  | ok overrides =>
    rw [hr] at h
    cases h
  | error flaw =>
    rw [hr] at h
    cases h
    exact ⟨_, rfl⟩

namespace Program

theorem endpoint_error {m : Machine} {i : Invocation} {fault : Fault}
    (h : endpoint m i = .error fault) : ∃ detail, fault = .config detail := by
  unfold endpoint at h
  rcases error_of_bind h with hload | ⟨_, -, h⟩
  · exact Profile.load_error hload
  rcases error_of_bind h with hoverrides | ⟨_, -, h⟩
  · exact Invocation.overrides_error hoverrides
  · cases h

/-- Wherever the remarks of a run go, its status, its output and its world are those of its course,
and its texts are among the errors. -/
theorem report_course (m : Machine) (sink : Sink) (c : Course σ) :
    let r := report m sink c
    r.exitCode = Session.exitCode c.result ∧ r.output = c.output ∧ r.world = c.world ∧
      ∀ text, .text text ∈ c.remarks → .text text ∈ r.errors := by
  unfold report
  cases sink with
  | errors => exact ⟨rfl, rfl, rfl, fun text h => by simp [h]⟩
  | file path =>
    dsimp only
    cases m.logObstacle path with
    | none => exact ⟨rfl, rfl, rfl, fun text h => by simp [h, isText]⟩
    | some o => exact ⟨rfl, rfl, rfl, fun text h => by simp [h, isText]⟩

theorem exitCode_eq_zero (result : Except Fault Unit) :
    Session.exitCode result = 0 ↔ result = .ok () := by
  cases result with
  | ok _ => exact ⟨fun _ => rfl, fun _ => rfl⟩
  | error fault => cases fault <;> simp [Session.exitCode, Fault.exitCode]

theorem exitCode_eq_two (result : Except Fault Unit) :
    Session.exitCode result = 2 ↔ ∃ reason, result = .error (.rejected reason) := by
  cases result with
  | ok _ => simp [Session.exitCode]
  | error fault => cases fault <;> simp [Session.exitCode, Fault.exitCode]

theorem exitCode_le (result : Except Fault Unit) : Session.exitCode result ≤ 2 := by
  cases result with
  | ok _ => simp [Session.exitCode]
  | error fault => cases fault <;> simp [Session.exitCode, Fault.exitCode]

theorem course_held (s : Supplier κ σ) {m : Machine} {i : Invocation} {e : Endpoint}
    (h : endpoint m i = .ok e) (world : σ) :
    (course s m i world).result =
      ((session m i).run s e ⟨world, none, m.terminal⟩).result := by
  unfold course
  rw [h]
  rfl

theorem course_prevented (s : Supplier κ σ) {m : Machine} {i : Invocation} {fault : Fault}
    (h : endpoint m i = .error fault) (world : σ) :
    let c := course s m i world
    c.result = .error fault ∧ c.output = [] ∧ c.world = world ∧
      .text (fault.message ++ "\n") ∈ c.remarks := by
  unfold course
  rw [h]
  exact ⟨rfl, rfl, rfl, by simp [prevented]⟩

/-- A run succeeds: its statement is admitted and answered, or its input does not fail before a line
leaves. -/
def Succeeds (s : Supplier κ σ) (m : Machine) (i : Invocation) (e : Endpoint) (world : σ) : Prop :=
  match i.query with
  | some sql => Policy.classify sql = .admitted ∧ ∃ answer, s.asked e sql world = .ok answer
  | none => m.input.lines.any Line.leaves = true ∨ ∀ detail, m.input.ending ≠ .failed detail

/-- The session of a run succeeds just if the run does. It is rejected only by the policy. -/
theorem session_result (s : Supplier κ σ) (m : Machine) (i : Invocation) (e : Endpoint)
    (world : σ) :
    let result := ((session m i).run s e ⟨world, none, .unlimited⟩).result
    (result = .ok () ↔ Succeeds s m i e world) ∧
      (NeverRejects s → ((∃ reason, result = .error (.rejected reason)) ↔
        ∃ sql reason, i.query = some sql ∧ Policy.classify sql = .rejected reason)) := by
  unfold session Succeeds
  cases i.query with
  | some sql =>
    dsimp only [Session.run]
    constructor
    · rw [Session.runOnce_result s e sql rfl]
      cases Policy.classify sql with
      | rejected reason => simp
      | admitted => cases s.asked e sql world <;> simp [Except.map]
    · intro hs
      simpa using exists_congr fun reason => Session.runOnce_rejected s e hs sql
        (show (⟨world, none, .unlimited⟩ : Desk κ σ).terminal = .unlimited from rfl) reason
  | none =>
    have hresult := ((Session.runInteractive_contained s e m.input ⟨world, none⟩).2 .unlimited).1
      ⟨fun _ h => (by cases h), fun _ h => (by cases h)⟩
    dsimp only [Session.run]
    change (Session.runInteractive s e m.input ⟨world, none, .unlimited⟩).result = _ at hresult
    rw [hresult]
    cases m.input.ending with
    | failed detail => cases h : m.input.lines.any Line.leaves <;> simp [Ending.verdict, h]
    | _ => simp [Ending.verdict]

end Program

open Session in
/-- A session at the prompt fails only with its terminal, or with its input if no line leaves
before, and comes to all its prompts whatever the supplier answers. A single statement has the
result that the policy or the supplier gives, and is rejected by the policy alone if the supplier
rejects nothing, as the clients of the network do not. So the status of a program is two just for a
single statement that the policy rejects, zero just for a success, and else one. A configuration
that cannot be loaded is told, with status one, and nothing else happens. -/
theorem failures_contained :
    (∀ {κ σ : Type} (s : Supplier κ σ) (e : Endpoint),
      (∀ (input : Input) (st : Standing κ σ),
        let full := runInteractive s e input (st.desk .unlimited)
        prompts full.events = promptCount input.lines ∧
          ∀ t : Terminal, let result := (runInteractive s e input (st.desk t)).result
            (t.Endures full.events → result = input.ending.verdict input.lines) ∧
              (¬t.Endures full.events → result = .error (.io t.fault))) ∧
      ∀ (sql : String) (world : σ), let result := (runOnce s e sql ⟨world, none, .unlimited⟩).result
        (result = match Policy.classify sql with
          | .rejected reason => .error (.rejected reason)
          | .admitted => (s.asked e sql world).map fun _ => ()) ∧
        (NeverRejects s → ∀ reason, result = .error (.rejected reason) ↔
          Policy.classify sql = .rejected reason)) ∧
    NeverRejects Server.network ∧
    ∀ {κ σ : Type} (s : Supplier κ σ) (m : Machine) (arguments : List String) (i : Invocation)
      (world : σ), Arguments.read arguments m.environment.profile = .ok i →
      let r := Program.run s m arguments world
      (∀ e, Program.endpoint m i = .ok e → m.terminal = .unlimited → NeverRejects s →
        (r.exitCode = 2 ↔
          ∃ sql reason, i.query = some sql ∧ Policy.classify sql = .rejected reason) ∧
        (r.exitCode = 0 ↔ Program.Succeeds s m i e world) ∧ r.exitCode ≤ 2) ∧
      ∀ fault, Program.endpoint m i = .error fault →
        r.exitCode = 1 ∧ r.output = [] ∧ r.world = world ∧
          .text (fault.message ++ "\n") ∈ r.errors := by
  refine ⟨fun s e => ⟨runInteractive_contained s e, fun sql world =>
    ⟨runOnce_result s e sql rfl, fun hs => runOnce_rejected s e hs sql rfl⟩⟩,
    Server.network_neverRejects, fun s m arguments i world hread => ?_⟩
  intro r
  obtain ⟨hcode, houtput, hworld, htext⟩ := Program.report_course m
    (Sink.ofRun i.query.isSome m.environment) (Program.course s m i world)
  have hr : r = Program.report m (Sink.ofRun i.query.isSome m.environment)
      (Program.course s m i world) := by
    show Program.run s m arguments world = _
    rw [Program.run, hread]
  rw [← hr] at hcode houtput hworld htext
  -- either there is an endpoint and the session decides, or the fault of the configuration does
  refine ⟨fun e he ht hs => ?_, fun fault hf => ?_⟩
  · obtain ⟨hok, hrejected⟩ := Program.session_result s m i e world
    rw [hcode, Program.course_held s he, ht]
    exact ⟨(Program.exitCode_eq_two _).trans (hrejected hs), (Program.exitCode_eq_zero _).trans hok,
      Program.exitCode_le _⟩
  · obtain ⟨hresult, hnothing, hsame, hsaid⟩ := Program.course_prevented s hf world
    obtain ⟨detail, rfl⟩ := Program.endpoint_error hf
    exact ⟨hcode.trans (congrArg Session.exitCode hresult), houtput.trans hnothing,
      hworld.trans hsame, htext _ hsaid⟩

/-- It does not take a client to have an admitted statement rejected: a connection can be refused
that way. -/
theorem rejected_connection :
    ¬∀ (s : Supplier Unit Unit) (e : Endpoint) (sql : String) (reason : Policy.Rejection),
      (∀ client sql world reason, (s.execute client sql world).result ≠ .error (.rejected reason)) →
      ((Session.runOnce s e sql ⟨(), none, .unlimited⟩).result = .error (.rejected reason) ↔
        Policy.classify sql = .rejected reason) := by
  intro h
  let reason : Policy.Rejection := .forbiddenKeyword "SET"
  let s : Supplier Unit Unit :=
    { Rehearsal.answering [] with
      connect := fun _ => Rehearsal.quietly (.error (.rejected reason)) }
  have hadmitted : Policy.classify "SELECT 1" = .admitted := by decide
  have hresult : (Session.runOnce s .standard "SELECT 1" ⟨(), none, .unlimited⟩).result =
      .error (.rejected reason) := by
    rw [Session.runOnce_result s .standard "SELECT 1" rfl, hadmitted]
    rfl
  have hrejected := (h s .standard "SELECT 1" reason (fun _ _ _ _ hr => by cases hr)).mp hresult
  rw [hadmitted] at hrejected
  cases hrejected

end SqlGuard
