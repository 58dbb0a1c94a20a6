import SqlGuard.Proofs.Breakdowns
import SqlGuard.Proofs.Modes

/-!
# Failures on their way to the screen

A failure of the connection becomes a fault, and the fault is told in place of
the answer. Its text is kept all the way: the explanation of a connection that
could not be made stands in front of it, an error of the server is shown with its
number, state and message, and at a terminal that never fails the text of every
fault is shown, one line for each and in their order (`Tells`).

* `Failure.whileConnecting_keeps`, `Failure.whileExecuting_becomes`: which fault a
  failure becomes, and what this keeps of it.
* `Session.run_tells`: in both modes, all that went wrong is told.
* `failures_told`: all of it, from the server to the screen.
-/
namespace SqlGuard

open Text.Utf8

variable {κ σ : Type}

/-! ## Texts of faults -/

/-- The text of a fault, without its category. -/
def Fault.detail : Fault → String
  | config detail | connection detail | query detail | io detail | internal detail => detail
  | rejected reason => reason.text

theorem infix_behind (front text : String) : text.toList <:+: (front ++ text).toList := by
  rw [String.toList_append]
  exact (List.suffix_append _ _).isInfix

theorem Fault.detail_message (fault : Fault) :
    ∃ front, fault.message = front ++ fault.detail := by
  cases fault <;> exact ⟨_, rfl⟩

theorem infix_encodeString {s t : String} (h : s.toList <:+: t.toList) :
    encodeString s <:+: encodeString t := by
  obtain ⟨front, back, ht⟩ := h
  refine ⟨encode front, encode back, ?_⟩
  simp only [encodeString, encode, ← ht, List.flatMap_append]

/-- Nothing of a fault's text is left out where it is told. -/
theorem Fault.detail_told (fault : Fault) :
    encodeString fault.detail <:+: encodeString ("Error: " ++ fault.message) ∧
      encodeString fault.detail <:+: encodeString (Screen.failure fault) := by
  obtain ⟨front, hmessage⟩ := fault.detail_message
  have hrefused : fault.detail.toList <:+: ("Error: " ++ fault.message).toList := by
    rw [hmessage, ← String.append_assoc]
    exact infix_behind _ _
  refine ⟨infix_encodeString hrefused, infix_encodeString ?_⟩
  cases fault with
  | internal detail => exact infix_behind _ _
  | _ => exact hrefused

namespace Server.Failure

theorem infix_bracketed (front text : String) :
    text.toList <:+: (front ++ (" (" ++ text ++ ")")).toList :=
  ⟨(front ++ " (").toList, ")".toList, by simp⟩

/-- Whichever explanation is chosen, the text of the failure stands behind it. -/
theorem whileConnecting_keeps (f : Failure) (e : Endpoint) :
    ∃ detail, f.whileConnecting e = .connection detail ∧ f.text.toList <:+: detail.toList := by
  refine ⟨_, rfl, ?_⟩
  split
  · exact infix_bracketed _ _
  split
  · exact infix_bracketed _ _
  split
  · exact infix_bracketed _ _
  · exact List.infix_refl _

/-- What a failure of a reply becomes. -/
inductive Becomes : Failure → Fault → Prop
  | plain (number : Nat) (message : String) :
    Becomes (server ⟨number, none, message⟩)
      (.query ("ERROR " ++ toString number ++ ": " ++ message))
  | stated (number : Nat) (state message : String) :
    Becomes (server ⟨number, some state, message⟩)
      (.query ("ERROR " ++ toString number ++ " (" ++ state ++ "): " ++ message))
  | connection {f : Failure} {detail : String} (h : ∀ error, f ≠ server error)
    (hkept : f.text.toList <:+: detail.toList) : Becomes f (.connection detail)
  | internal {f : Failure} {detail : String} (h : ∀ error, f ≠ server error)
    (hkept : f.text.toList <:+: detail.toList) : Becomes f (.internal detail)

theorem whileExecuting_becomes (f : Failure) : f.Becomes f.whileExecuting := by
  cases f with
  | server error =>
    obtain ⟨number, state, message⟩ := error
    cases state with
    | none =>
      have htext : (server ⟨number, none, message⟩).whileExecuting =
          .query ("ERROR " ++ toString number ++ ": " ++ message) := by
        simp [whileExecuting, numberText]
      rw [htext]
      exact .plain number message
    | some state =>
      have htext : (server ⟨number, some state, message⟩).whileExecuting =
          .query ("ERROR " ++ toString number ++ " (" ++ state ++ "): " ++ message) := by
        simp [whileExecuting, numberText, String.append_assoc]
      rw [htext]
      exact .stated number state message
  | other detail => exact .internal (by simp) (infix_behind _ _)
  | _ => exact .connection (by simp) (List.infix_refl _)

end Server.Failure

/-! ## Texts in an output -/

/-- The texts stand in the output in their order, each of them up to the end of its line. -/
inductive Tells : List String → List UInt8 → Prop
  | nil (out : List UInt8) : Tells [] out
  | cons {text : String} {texts : List String} {rest : List UInt8} (before : List UInt8)
    (h : Tells texts rest) :
    Tells (text :: texts) (before ++ encodeString (text ++ "\n") ++ rest)

namespace Tells

variable {texts more : List String} {out next : List UInt8}

theorem after (before : List UInt8) (h : Tells texts out) : Tells texts (before ++ out) := by
  cases h with
  | nil => exact .nil _
  | cons between h =>
    rw [← List.append_assoc, ← List.append_assoc]
    exact .cons _ h

theorem append (h : Tells texts out) (h' : Tells more next) :
    Tells (texts ++ more) (out ++ next) := by
  induction h with
  | nil out => exact h'.after out
  | cons before _ ih =>
    rw [List.append_assoc, List.cons_append]
    exact .cons before ih

theorem followed (h : Tells texts out) (behind : List UInt8) : Tells texts (out ++ behind) := by
  have := h.append (.nil behind)
  rwa [List.append_nil] at this

theorem mem (h : Tells texts out) {text : String} (hm : text ∈ texts) :
    encodeString text <:+: out := by
  induction h with
  | nil => cases hm
  | @cons told texts rest before _ ih =>
    rcases List.mem_cons.mp hm with rfl | hm
    · rw [encodeString_append]
      exact ⟨before, encodeString "\n" ++ rest, by simp⟩
    · exact (ih hm).trans (List.suffix_append _ rest).isInfix

end Tells

/-! ## What went wrong -/

/-- What there is to tell of a request that fails in this state. -/
def Event.complaint? (s : Supplier κ σ) (e : Endpoint) (world : σ) : Event κ → Option String
  | refused _ =>
    match (s.connect e world).result with
    | .ok _ => none
    | .error fault => some ("Error: " ++ fault.message)
  | executed client sql =>
    match (s.execute client sql world).result with
    | .ok _ => none
    | .error fault => some (Screen.failure fault)
  | _ => none

/-- What there is to tell of some requests, each in the state that those before it lead to. -/
def complaints (s : Supplier κ σ) (e : Endpoint) : σ → List (Event κ) → List String
  | _, [] => []
  | world, ev :: es => (ev.complaint? s e world).toList ++ complaints s e (ev.leads s e world) es

section Complaints

variable (s : Supplier κ σ) (e : Endpoint)

theorem complaints_append (world : σ) (es fs : List (Event κ)) :
    complaints s e world (es ++ fs) =
      complaints s e world es ++ complaints s e (worldAfter s e world es) fs := by
  induction es generalizing world with
  | nil => rfl
  | cons ev es ih =>
    rw [List.cons_append, complaints, complaints, ih, List.append_assoc]
    rfl

theorem mem_complaints {world : σ} {pre : List (Event κ)} {ev : Event κ} {text : String}
    (h : ev.complaint? s e (worldAfter s e world pre) = some text) (post : List (Event κ)) :
    text ∈ complaints s e world (pre ++ ev :: post) := by
  rw [complaints_append, complaints, h]
  simp

end Complaints

/-- What is told in place of an answer stands alone on the screen. -/
theorem Tells.of_complaint {complaint : Option String} {text : String}
    (h : ∀ told ∈ complaint, told = text) : Tells complaint.toList (Session.octetsOf [text]) := by
  cases complaint with
  | none => exact .nil _
  | some told =>
    obtain rfl := h told rfl
    have htells : Tells [told] ([] ++ encodeString (told ++ "\n") ++ []) := .cons [] (.nil [])
    simpa [Session.octetsOf] using htells

namespace Standing

open Outline Session

variable (s : Supplier κ σ) (e : Endpoint)

/-- Past the policy, the fault of an execution is shown. -/
theorem shown_run {sql : String} (h : Policy.classify sql = .admitted) (client : κ) (world : σ) :
    ∀ told ∈ (Event.executed client sql).complaint? s e world,
      told = shown (Execution.run s client sql world).outcome := by
  intro told htold
  cases hr : (s.execute client sql world).result with
  | ok answer =>
    simp only [Event.complaint?, hr] at htold
    cases htold
  | error fault =>
    simp only [Event.complaint?, hr] at htold
    cases htold
    simp only [Execution.run, h, hr, shown]

/-- A statement tells its own fault, whether its client is closed behind it or not. -/
theorem executed_tells {sql : String} (h : Policy.classify sql = .admitted) (client : κ)
    (world : σ) {closing : List (Event κ)} (hclosing : closing = [] ∨ closing = [.closed client]) :
    Tells (complaints s e world (.executed client sql :: closing))
      (octetsOf [shown (Execution.run s client sql world).outcome]) := by
  have hown : complaints s e world (.executed client sql :: closing) =
      ((Event.executed client sql).complaint? s e world).toList := by
    rcases hclosing with rfl | rfl <;> simp [complaints, Event.complaint?]
  rw [hown]
  exact Tells.of_complaint (shown_run s e h client world)

theorem refused_tells {world : σ} {fault : Fault} (hr : (s.connect e world).result = .error fault) :
    Tells (complaints s e world [(.refused fault : Event κ)])
      (octetsOf ["Error: " ++ fault.message]) := by
  have hown : complaints s e world [(.refused fault : Event κ)] =
      (some ("Error: " ++ fault.message)).toList := by
    simp [complaints, Event.complaint?, hr]
  rw [hown]
  exact Tells.of_complaint fun told htold => by cases htold; rfl

theorem execute_tells {sql : String} (h : Policy.classify sql = .admitted) (client : κ)
    (world : σ) :
    let run := Standing.execute s client sql ⟨world, some client⟩
    Tells (complaints s e world run.2.marks) (octetsOf [shown run.1]) := by
  intro run
  obtain ⟨closing, hclosing, hmarks⟩ :=
    execute_marks s client sql (show (⟨world, some client⟩ : Standing κ σ).held = _ from rfl)
  rw [hmarks]
  exact executed_tells s e h client world hclosing

/-- Whatever goes wrong with a statement at the prompt is shown in place of its answer. -/
theorem answer_tells (sql : String) (st : Standing κ σ) :
    Tells (complaints s e st.world (st.answer s e sql).2.marks)
      (octetsOf [(st.answer s e sql).1]) := by
  obtain ⟨world, held⟩ := st
  cases hsql : Policy.classify sql with
  | rejected reason =>
    simp only [answer, hsql, still, complaints]
    exact .nil _
  | admitted =>
    cases held with
    | some client =>
      simp only [answer, hsql, Standing.client, still_next]
      exact execute_tells s e hsql client world
    | none =>
      cases hr : (s.connect e world).result with
      | error fault =>
        simp only [answer, hsql, Standing.client, hr, Event.attempt]
        exact refused_tells s e hr
      | ok client =>
        have htells := execute_tells s e hsql client (s.connect e world).state
        simp only [answer, hsql, Standing.client, hr]
        exact htells

/-- A line tells what goes wrong with its statement. The other lines ask nothing. -/
theorem reply_tells (line : List UInt8) (st : Standing κ σ) :
    Tells (complaints s e st.world (st.reply s e line).2.marks)
      (octetsOf (st.reply s e line).1) := by
  have hstill (out : List UInt8) : Tells (complaints s e st.world (still st).marks) out := .nil out
  unfold reply
  cases Text.Utf8.decodeString line with
  | error malformed => exact hstill _
  | ok text =>
    dsimp only
    cases Command.ofLine text with
    | query sql =>
      have hsaid : octetsOf [(st.answer s e sql).1, ""] =
          octetsOf [(st.answer s e sql).1] ++ octetsOf [""] := by
        simp [octetsOf]
      rw [hsaid]
      exact (answer_tells s e sql st).followed _
    | blank => exact hstill _
    | leave => exact hstill _
    | help => exact hstill _

/-- A single statement shows what goes wrong with it in the same way. -/
theorem single_tells (sql : String) (st : Standing κ σ) :
    Tells (complaints s e st.world (st.single s e sql).2.marks)
      (octetsOf [(st.single s e sql).1.1]) := by
  unfold single
  cases hsql : Policy.classify sql with
  | rejected reason => exact .nil _
  | admitted =>
    dsimp only
    cases hr : (s.connect e st.world).result with
    | error fault =>
      exact refused_tells s e hr
    | ok client =>
      show Tells ([] ++ complaints s e (s.connect e st.world).state
        [.executed client sql, .closed client]) _
      exact executed_tells s e hsql client _ (.inr rfl)

end Standing

namespace Session

open Outline Standing

variable (s : Supplier κ σ) (e : Endpoint)

/-- The screen of some lines tells what goes wrong with their statements. -/
theorem screen_tells (ending : Ending) (lines : List (List UInt8)) (st : Standing κ σ) :
    Tells (complaints s e st.world (st.answers s e (handledTexts lines)).marks)
      (screen s e ending lines st) := by
  induction lines generalizing st with
  | nil => exact .nil _
  | cons line rest ih =>
    -- what the lines behind it tell, they tell in the state that this line leads to
    have hreply := (reply_tells s e line st).after (encodeString Screen.prompt)
    have hworld : (st.reply s e line).2.standing.world =
        worldAfter s e st.world (st.reply s e line).2.marks := by
      rw [reply_answers]
      refine (answers_continues s e (fun sql hsql => ?_) st).world_eq
      exact of_decide_eq_true (Option.filter_eq_some_iff.mp (Option.mem_toList.mp hsql)).2
    rw [handledTexts_cons, answers_append, ← reply_answers, screen]
    cases hv : Line.leaves line with
    | true =>
      simp only [if_pos, answers, next_still, List.append_nil]
      exact hreply
    | false =>
      simp only [Bool.false_eq_true, if_false, next]
      rw [complaints_append, ← hworld]
      exact hreply.append (ih (st.reply s e line).2.standing)

/-- The client that is closed in the end has nothing more to tell. -/
theorem complaints_dismiss (world : σ) (st : Standing κ σ) :
    complaints s e world (st.dismiss s).marks = [] := by
  unfold dismiss
  split <;> rfl

/-- In both modes, all that goes wrong with a session's requests is told in their order. -/
theorem run_tells (session : Session) {desk : Desk κ σ} (ht : desk.terminal = .unlimited) :
    Tells (complaints s e desk.world (requestsOf (session.run s e desk).events))
      (outputOf (session.run s e desk).events) := by
  cases session with
  | once sql =>
    show Tells (complaints s e _ (requestsOf (runOnce s e sql desk).events)) _
    rw [runOnce_requests]
    exact (runOnce_output s e sql ht).symm ▸ single_tells s e sql desk.standing
  | interactive input =>
    show Tells (complaints s e _ (requestsOf (runInteractive s e input desk).events))
      (outputOf (runInteractive s e input desk).events)
    rw [runInteractive_requests s e input ht, (runInteractive_unlimited s e input ht).2, next,
      complaints_append, complaints_dismiss, List.append_nil]
    exact (screen_tells s e input.ending input.lines desk.standing).after _

/-! ### Requests of a session -/

/-- What a single statement asks: nothing, a connection that is refused, or all that it takes. -/
theorem single_cases (sql : String) (st : Standing κ σ) :
    (st.single s e sql).2.marks = [] ∨
    (∃ fault, (s.connect e st.world).result = .error fault ∧
      (st.single s e sql).2.marks = [.refused fault]) ∨
    ∃ client, (s.connect e st.world).result = .ok client ∧
      (st.single s e sql).2.marks = [.connected client, .executed client sql, .closed client] := by
  unfold Standing.single
  cases Policy.classify sql with
  | rejected reason => exact .inl rfl
  | admitted =>
    dsimp only
    cases (s.connect e st.world).result with
    | error fault => exact .inr (.inl ⟨fault, rfl, rfl⟩)
    | ok client => exact .inr (.inr ⟨client, rfl, rfl⟩)

theorem run_refused (session : Session) {desk : Desk κ σ} {pre post : List (Event κ)}
    {fault : Fault}
    (h : requestsOf (session.run s e desk).events = pre ++ .refused fault :: post) :
    (s.connect e (worldAfter s e desk.world pre)).result = .error fault := by
  cases session with
  | once sql =>
    have hmarks := (runOnce_requests s e sql desk).symm.trans h
    have hmem : .refused fault ∈ (desk.standing.single s e sql).2.marks := by simp [hmarks]
    rcases single_cases s e sql desk.standing with hm | ⟨refused, hr, hm⟩ | ⟨client, -, hm⟩
    · simp [hm] at hmem
    · rw [hm] at hmarks
      cases pre with
      | nil =>
        cases hmarks
        exact hr
      | cons ev pre => simp at hmarks
    · simp [hm] at hmem
  | interactive input =>
    obtain ⟨es, st, hes, hrun⟩ := runInteractive_continues s e input desk
    obtain ⟨post', rfl⟩ := split_left (hrun.symm.trans h) (by simp)
    exact hes.refused

end Session

/-! ## Over the network -/

namespace Server

theorem Network.connect_error {e : Endpoint} {n : Network} {fault : Fault}
    (h : (n.connect e).result = .error fault) :
    ∃ f : Failure, (n.accept e).1 = .error f ∧ fault = f.whileConnecting e := by
  unfold connect at h
  rcases hn : n.accept e with ⟨f | client, n'⟩
  · rw [hn] at h
    cases h
    exact ⟨f, rfl, rfl⟩
  · rw [hn] at h
    cases h

open Session in
/-- In both modes a statement runs on an open link. -/
theorem run_reaches (session : Session) {e : Endpoint} {n : Network} {t : Terminal}
    {pre post : List (Event Nat)} {client : Nat} {sql : String}
    (h : requestsOf (session.run network e ⟨n, none, t⟩).events =
      pre ++ .executed client sql :: post) :
    (worldAfter network e n pre).Reaches client := by
  cases session with
  | once asked =>
    have hmarks := (runOnce_requests network e asked ⟨n, none, t⟩).symm.trans h
    rcases single_cases network e asked (Desk.standing ⟨n, none, t⟩) with
      hm | ⟨fault, -, hm⟩ | ⟨client', hr, hm⟩
    · rw [hm] at hmarks
      simp at hmarks
    · rw [hm] at hmarks
      have hmem : Event.executed client sql ∈ [.refused fault] := by simp [hmarks]
      simp at hmem
    · rw [hm] at hmarks
      -- the statement stands behind its connection alone
      match pre, hmarks with
      | [], hmarks => cases hmarks
      | [ev], hmarks =>
        cases hmarks
        exact Network.connect_reaches hr
      | ev :: ev' :: pre, hmarks =>
        obtain ⟨-, htail⟩ := List.cons.inj (List.cons.inj hmarks).2
        have hmem : Event.executed client sql ∈ [.closed client'] := by simp [htail]
        simp at hmem
  | interactive input =>
    obtain ⟨hpre, -⟩ := runInteractive_executed network e input ⟨n, none, t⟩ h
    exact network_reaches hpre (fun _ hc => by cases hc) client rfl

/-- What a session over the network shows of the failures behind its requests. -/
structure ToldOver (e : Endpoint) (n : Network) (requests : List (Event Nat)) (out : List UInt8) :
    Prop where
  /-- A connection that fails in its making is refused, and the whole text of the fault is shown,
  with that of the failure in it. -/
  refused : ∀ pre fault post, requests = pre ++ .refused fault :: post →
    ∃ f : Failure, ((worldAfter network e n pre).accept e).1 = .error f ∧
      fault = f.whileConnecting e ∧ encodeString fault.detail <:+: out ∧
      encodeString f.text <:+: out
  /-- A statement runs on an open link, and if its reply fails, the whole text of the fault is
  shown. -/
  failed : ∀ pre client sql post, requests = pre ++ .executed client sql :: post →
    ∃ l, (worldAfter network e n pre).links[client]? = some l ∧ l.isOpen = true ∧
      ∀ b, (l.send sql).1 = .error b →
        encodeString b.failure.whileExecuting.detail <:+: out

theorem run_toldOver (e : Endpoint) (session : Session) (n : Network) :
    let stage := session.run network e ⟨n, none, .unlimited⟩
    ToldOver e n (requestsOf stage.events) (outputOf stage.events) := by
  intro stage
  have htells := Session.run_tells network e session
    (show (⟨n, none, .unlimited⟩ : Desk Nat Network).terminal = .unlimited from rfl)
  refine ⟨fun pre fault post h => ?_, fun pre client sql post h => ?_⟩
  · have hr := Session.run_refused network e session h
    obtain ⟨f, haccept, hfault⟩ := Network.connect_error hr
    obtain ⟨detail, hdetail, hkept⟩ := f.whileConnecting_keeps e
    have hcomplaint : (Event.refused fault : Event Nat).complaint? network e
        (worldAfter network e n pre) = some ("Error: " ++ fault.message) := by
      rw [Event.complaint?, hr]
    have hmem := mem_complaints network e hcomplaint post
    rw [← h] at hmem
    have htold : encodeString fault.detail <:+: outputOf stage.events :=
      fault.detail_told.1.trans (htells.mem hmem)
    refine ⟨f, haccept, hfault, htold, (infix_encodeString ?_).trans htold⟩
    rw [hfault, hdetail]
    exact hkept
  · obtain ⟨l, hl, hopen⟩ := run_reaches session h
    refine ⟨l, hl, hopen, fun b hb => ?_⟩
    have hr : (network.execute client sql (worldAfter network e n pre)).result =
        .error b.failure.whileExecuting :=
      (Network.execute_link hl sql).1.trans (((l.execute_open hopen sql).1 _).mpr ⟨b, hb, rfl⟩)
    have hcomplaint : (Event.executed client sql).complaint? network e
        (worldAfter network e n pre) = some (Screen.failure b.failure.whileExecuting) := by
      rw [Event.complaint?, hr]
    have hmem := mem_complaints network e hcomplaint post
    rw [← h] at hmem
    exact b.failure.whileExecuting.detail_told.2.trans (htells.mem hmem)

/-- No text of a failure is lost. A connection that cannot be made fails with a fault that keeps the
text of the failure, whichever explanation it gets. A statement fails with what the first failure in
its reply becomes, wherever this stands: an error of the server with its number, state and message,
and every other failure with its text. At a terminal that never fails, what goes wrong with the
requests of a session is told in both modes, each fault on a line of its own and in their order; so
over the network the whole text of each fault is in the output. -/
theorem failures_told :
    (∀ (f : Failure) (e : Endpoint), ∃ detail, f.whileConnecting e = .connection detail ∧
      f.text.toList <:+: detail.toList) ∧
    (∀ f : Failure, f.Becomes f.whileExecuting) ∧
    (∀ (l : Link) (sql : String), l.isOpen = true →
      (∀ b, (l.send sql).1 = .error b →
        (l.execute sql).result = .error b.failure.whileExecuting) ∧
      ∀ packet, l.alive = true → ErrsWith packet l.upcoming.reply →
        (l.send sql).1 = .error (reported packet)) ∧
    (∀ {κ σ : Type} (s : Supplier κ σ) (e : Endpoint) (session : Session) (desk : Desk κ σ),
      desk.terminal = .unlimited →
      let stage := session.run s e desk
      Tells (complaints s e desk.world (requestsOf stage.events)) (outputOf stage.events)) ∧
    ∀ (e : Endpoint) (session : Session) (n : Network),
      let stage := session.run network e ⟨n, none, .unlimited⟩
      ToldOver e n (requestsOf stage.events) (outputOf stage.events) := by
  refine ⟨Failure.whileConnecting_keeps, Failure.whileExecuting_becomes,
    fun l sql hopen => ⟨?_, ?_⟩, fun s e session desk ht => Session.run_tells s e session ht,
    run_toldOver⟩
  · intro b hb
    exact ((l.execute_open hopen sql).1 _).mpr ⟨b, hb, rfl⟩
  · intro packet halive herrs
    exact congrArg Prod.fst (Link.send_errs halive herrs sql)

theorem reported_failure (packet : ErrorPacket) : (reported packet).failure = packet.failure := rfl

/-- An error with a message that more than one explanation fits. -/
def doubtful : ErrorPacket :=
  .ofParts 1045 (some "28000") (encodeString "Access denied; unknown database 'shop'")

/-- A server that reports this error to its first client, and to the second one behind a row. -/
def doubtfulNetwork : Network :=
  ⟨defaultPort, some [⟨none, some (.error doubtful), none, []⟩,
    ⟨none, none, none, [⟨[.rows [] [.cells [], .error doubtful]], .error notDescribable⟩]⟩], []⟩

/-- The connection of the second client. -/
def doubtfulLink : Link :=
  ⟨true, true, [⟨[.rows [] [.cells [], .error doubtful]], .error notDescribable⟩], .plain, [],
    [Network.loginEntry .standard]⟩

theorem doubtful_failure :
    doubtful.failure = .server ⟨1045, some "28000", "Access denied; unknown database 'shop'"⟩ := by
  rw [ErrorPacket.failure, doubtful, ErrorPacket.read_ofParts _ _ _ (by decide)]

theorem doubtful_told :
    encodeString
        "error returned from database: 1045 (28000): Access denied; unknown database 'shop'" <:+:
      outputOf ((Session.once "SELECT 1").run network .standard
        ⟨doubtfulNetwork, none, .unlimited⟩).events ∧
    encodeString "ERROR 1045 (28000): Access denied; unknown database 'shop'" <:+:
      outputOf ((Session.once "SELECT 1").run network .standard
        ⟨(doubtfulNetwork.connect .standard).state, none, .unlimited⟩).events := by
  obtain ⟨-, -, -, -, htold⟩ := failures_told
  have hadmitted : Policy.classify "SELECT 1" = .admitted := by decide
  have hrequests (n : Network) : requestsOf ((Session.once "SELECT 1").run network .standard
      ⟨n, none, .unlimited⟩).events =
        match (network.connect .standard n).result with
        | .error fault => [.refused fault]
        | .ok client => [.connected client, .executed client "SELECT 1", .closed client] := by
    refine (Session.runOnce_requests network .standard "SELECT 1" ⟨n, none, .unlimited⟩).trans ?_
    rw [Standing.single, hadmitted]
    dsimp only [Desk.standing]
    cases (network.connect .standard n).result <;> rfl
  constructor
  · have hrefused : (network.connect .standard doubtfulNetwork).result =
        .error (doubtful.failure.whileConnecting .standard) := rfl
    have hfailure : (doubtfulNetwork.accept .standard).1 = .error doubtful.failure := rfl
    have htext : doubtful.failure.text =
        "error returned from database: 1045 (28000): Access denied; unknown database 'shop'" := by
      rw [doubtful_failure]
      decide +kernel
    have hasked := hrequests doubtfulNetwork
    rw [hrefused] at hasked
    obtain ⟨f, haccept, -, -, hf⟩ :=
      (htold .standard (.once "SELECT 1") doubtfulNetwork).refused [] _ [] hasked
    rw [worldAfter, List.foldl_nil, hfailure, Except.error.injEq] at haccept
    rwa [← haccept, htext] at hf
  · have hconnected : (network.connect .standard (doubtfulNetwork.connect .standard).state).result =
        .ok 1 := rfl
    have hlink : (worldAfter network .standard (doubtfulNetwork.connect .standard).state
        [.connected 1]).links[1]? = some doubtfulLink := rfl
    have herrs : ErrsWith doubtful doubtfulLink.upcoming.reply := .between rfl [[]] [] []
    have htext : doubtful.failure.whileExecuting.detail =
        "ERROR 1045 (28000): Access denied; unknown database 'shop'" := by
      rw [doubtful_failure]
      decide +kernel
    have hasked := hrequests (doubtfulNetwork.connect .standard).state
    rw [hconnected] at hasked
    obtain ⟨l, hl, -, hf⟩ := (htold .standard (.once "SELECT 1")
      (doubtfulNetwork.connect .standard).state).failed [.connected 1] 1 "SELECT 1" [.closed 1]
        hasked
    rw [hlink, Option.some.injEq] at hl
    subst hl
    have hsend := Link.send_errs (l := doubtfulLink) rfl herrs "SELECT 1"
    have hfault := hf (reported doubtful) (by rw [hsend])
    rwa [reported_failure, htext] at hfault

end Server

end SqlGuard
