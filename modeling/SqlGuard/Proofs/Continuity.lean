import SqlGuard.Proofs.Accounts
import SqlGuard.Proofs.History
import SqlGuard.Rehearsal

/-!
# The client that a session goes on with

A statement at the prompt takes its `Turn`: it runs on the client that is held,
or on a new one, and this client is held behind it unless its connection is
lost. `Continues` follows the turns of a session through the states of the
supplier.

* `handleLine_turn`: a line with an admitted statement takes one turn, and every
  other line leaves all as it is.
* `runInteractive_consecutive`: two statements in a row run on one client, unless
  the connection is lost in between.
-/
namespace SqlGuard

variable {κ σ : Type}

/-- The statement failed because its connection is lost. -/
def Lost (result : Except Fault Answer) : Prop := ∃ detail, result = .error (.connection detail)

/-- The state behind the supplier after a request. -/
def Event.leads (s : Supplier κ σ) (e : Endpoint) (world : σ) : Event κ → σ
  | connected _ | refused _ => (s.connect e world).state
  | executed client sql => (s.execute client sql world).state
  | closed client => (s.close client world).state
  | _ => world

/-- The state behind the supplier after some requests. -/
def worldAfter (s : Supplier κ σ) (e : Endpoint) (world : σ) (events : List (Event κ)) : σ :=
  events.foldl (Event.leads s e) world

/-- Past the policy, the client is lost if the connection is. -/
theorem Execution.run_lost (s : Supplier κ σ) (client : κ) {sql : String}
    (h : Policy.classify sql = .admitted) (world : σ) :
    let run := Execution.run s client sql world
    (run.outcome.losesClient = true ↔ Lost (s.execute client sql world).result) ∧
      run.state = (s.execute client sql world).state := by
  unfold Execution.run Lost
  rw [h]
  cases hr : (s.execute client sql world).result with
  | ok answer => simp [hr, losesClient]
  | error fault =>
    dsimp only
    rw [hr]
    cases fault <;> simp [losesClient, Fault.isConnection]

namespace Standing

open Outline

variable (s : Supplier κ σ) (e : Endpoint)

/-- A statement runs on a client, which is held behind it unless its connection is lost. Then it is
closed, and no client is held. -/
inductive Serves (client : κ) (sql : String) (world : σ) :
    List (Event κ) → Standing κ σ → Prop
  | keeps (h : ¬Lost (s.execute client sql world).result) :
    Serves client sql world [.executed client sql]
      ⟨(s.execute client sql world).state, some client⟩
  | loses (h : Lost (s.execute client sql world).result) :
    Serves client sql world [.executed client sql, .closed client]
      ⟨(s.close client (s.execute client sql world).state).state, none⟩

/-- The turn of an admitted statement. A connection is asked for only if no client is held. -/
inductive Turn (sql : String) : Standing κ σ → List (Event κ) → Standing κ σ → Prop
  | refused {world : σ} {fault : Fault} (hr : (s.connect e world).result = .error fault) :
    Turn sql ⟨world, none⟩ [.refused fault] ⟨(s.connect e world).state, none⟩
  | connected {world : σ} {client : κ} {es : List (Event κ)} {st : Standing κ σ}
    (hr : (s.connect e world).result = .ok client)
    (h : Serves s client sql (s.connect e world).state es st) :
    Turn sql ⟨world, none⟩ (.connected client :: es) st
  | held {world : σ} {client : κ} {es : List (Event κ)} {st : Standing κ σ}
    (h : Serves s client sql world es st) : Turn sql ⟨world, some client⟩ es st

variable {sql : String} (hsql : Policy.classify sql = .admitted)

include hsql

theorem execute_serves (client : κ) (world : σ) :
    Serves s client sql world (Standing.execute s client sql ⟨world, some client⟩).2.marks
      (Standing.execute s client sql ⟨world, some client⟩).2.standing := by
  obtain ⟨hlost, hstate⟩ := Execution.run_lost s client hsql world
  unfold Standing.execute
  dsimp only
  rw [hstate]
  split
  · rename_i h
    exact .loses (hlost.mp h)
  · rename_i h
    exact .keeps fun hl => h (hlost.mpr hl)

theorem answer_turn (st : Standing κ σ) :
    Turn s e sql st (st.answer s e sql).2.marks (st.answer s e sql).2.standing := by
  obtain ⟨world, held⟩ := st
  cases held with
  | some client =>
    have ho : ((⟨world, some client⟩ : Standing κ σ).answer s e sql).2 =
        (Standing.execute s client sql ⟨world, some client⟩).2 := by
      simp only [answer, hsql, Standing.client, still_next]
    rw [ho]
    exact .held (execute_serves s hsql client world)
  | none =>
    cases hr : (s.connect e world).result with
    | error fault =>
      have ho : ((⟨world, none⟩ : Standing κ σ).answer s e sql).2 =
          ⟨[.refused fault], ⟨(s.connect e world).state, none⟩⟩ := by
        simp only [answer, hsql, Standing.client, hr]
        rfl
      rw [ho]
      exact .refused hr
    | ok client =>
      have ho : ((⟨world, none⟩ : Standing κ σ).answer s e sql).2 =
          mark (.connected client)
            (Standing.execute s client sql ⟨(s.connect e world).state, some client⟩).2 := by
        simp only [answer, hsql, Standing.client, hr]
        rfl
      have hserves := execute_serves s hsql client (s.connect e world).state
      rw [ho]
      generalize (Standing.execute s client sql ⟨(s.connect e world).state, some client⟩).2 = o
        at hserves ⊢
      exact .connected hr hserves

end Standing

namespace Session

open Standing

variable (s : Supplier κ σ) (e : Endpoint)

/-- At any desk, and however the terminal fails, a line with an admitted statement takes one turn.
A line without one asks nothing and leaves the client that is held. -/
theorem handleLine_turn (line : List UInt8) (desk : Desk κ σ) :
    let stage := handleLine s e line desk
    match Line.admitted? line with
    | some sql => Turn s e sql desk.standing (requestsOf stage.events) stage.desk.standing
    | none => requestsOf stage.events = [] ∧ stage.desk.standing = desk.standing := by
  intro stage
  have ho : stage.outline = desk.standing.answers s e (Line.admitted? line).toList :=
    (handleLine_outline s e line desk).trans (reply_answers s e line desk.standing)
  have hr : requestsOf stage.events = stage.outline.marks := by
    rw [← requestsOf_marksOf]
    show requestsOf stage.outline.marks = _
    rw [handleLine_outline, requestsOf_eq_self (reply_requests s e line desk.standing)]
  cases ha : Line.admitted? line with
  | none =>
    rw [ha] at ho
    exact ⟨hr.trans (congrArg Outline.marks ho), congrArg Outline.standing ho⟩
  | some sql =>
    have hsql : Policy.classify sql = .admitted :=
      of_decide_eq_true (Option.filter_eq_some_iff.mp ha).2
    have ho' : stage.outline = (desk.standing.answer s e sql).2 := by
      rw [ho, ha]
      exact Outline.next_still _
    have hs : stage.desk.standing = (desk.standing.answer s e sql).2.standing :=
      congrArg Outline.standing ho'
    dsimp only
    rw [hr, ho', hs]
    exact answer_turn s e hsql desk.standing

end Session

/-! ## Turns in a row -/

/-- Requests that lead from one standing to another, each with what the supplier answers in the
state that it has by then. -/
inductive Continues (s : Supplier κ σ) (e : Endpoint) :
    Standing κ σ → List (Event κ) → Standing κ σ → Prop
  | nil (st : Standing κ σ) : Continues s e st [] st
  | refuse {world : σ} {fault : Fault} {es : List (Event κ)} {st : Standing κ σ}
    (hr : (s.connect e world).result = .error fault)
    (h : Continues s e ⟨(s.connect e world).state, none⟩ es st) :
    Continues s e ⟨world, none⟩ (.refused fault :: es) st
  | connect {world : σ} {client : κ} {es : List (Event κ)} {st : Standing κ σ}
    (hr : (s.connect e world).result = .ok client)
    (h : Continues s e ⟨(s.connect e world).state, some client⟩ es st) :
    Continues s e ⟨world, none⟩ (.connected client :: es) st
  | keep {world : σ} {client : κ} {sql : String} {es : List (Event κ)} {st : Standing κ σ}
    (hl : ¬Lost (s.execute client sql world).result)
    (h : Continues s e ⟨(s.execute client sql world).state, some client⟩ es st) :
    Continues s e ⟨world, some client⟩ (.executed client sql :: es) st
  | lose {world : σ} {client : κ} {sql : String} {es : List (Event κ)} {st : Standing κ σ}
    (hl : Lost (s.execute client sql world).result)
    (h : Continues s e ⟨(s.close client (s.execute client sql world).state).state, none⟩ es st) :
    Continues s e ⟨world, some client⟩ (.executed client sql :: .closed client :: es) st

namespace Continues

variable {s : Supplier κ σ} {e : Endpoint} {a b c : Standing κ σ} {es fs : List (Event κ)}

theorem append (h : Continues s e a es b) (h' : Continues s e b fs c) :
    Continues s e a (es ++ fs) c := by
  induction h with
  | nil => exact h'
  | refuse hr _ ih => exact .refuse hr (ih h')
  | connect hr _ ih => exact .connect hr (ih h')
  | keep hl _ ih => exact .keep hl (ih h')
  | lose hl _ ih => exact .lose hl (ih h')

theorem of_serves {client : κ} {sql : String} {world : σ}
    (h : Standing.Serves s client sql world es b) : Continues s e ⟨world, some client⟩ es b := by
  cases h with
  | keeps hl => exact .keep hl (.nil _)
  | loses hl => exact .lose hl (.nil _)

theorem of_turn {sql : String} (h : Standing.Turn s e sql a es b) : Continues s e a es b := by
  cases h with
  | refused hr => exact .refuse hr (.nil _)
  | connected hr h => exact .connect hr (.of_serves h)
  | held h => exact .of_serves h

theorem world_eq (h : Continues s e a es b) : b.world = worldAfter s e a.world es := by
  induction h with
  | nil => rfl
  | refuse _ _ ih => exact ih
  | connect _ _ ih => exact ih
  | keep _ _ ih => exact ih
  | lose _ _ ih => exact ih

/-- Up to a request the others lead to a standing, and from there they go on. Only a closing cannot
be cut from the statement in front of it. -/
theorem split_at {pre post : List (Event κ)} {ev : Event κ}
    (h : Continues s e a (pre ++ ev :: post) b) (hev : ev.isClosed = false) :
    ∃ st, Continues s e a pre st ∧ Continues s e st (ev :: post) b := by
  generalize hall : pre ++ ev :: post = all at h
  induction h generalizing pre with
  | nil => exact absurd hall (by simp)
  | refuse hr h ih =>
    cases pre with
    | nil =>
      cases hall
      exact ⟨_, .nil _, .refuse hr h⟩
    | cons first pre =>
      obtain ⟨rfl, htail⟩ := List.cons.inj hall
      obtain ⟨st, hpre, hpost⟩ := ih htail
      exact ⟨st, .refuse hr hpre, hpost⟩
  | connect hr h ih =>
    cases pre with
    | nil =>
      cases hall
      exact ⟨_, .nil _, .connect hr h⟩
    | cons first pre =>
      obtain ⟨rfl, htail⟩ := List.cons.inj hall
      obtain ⟨st, hpre, hpost⟩ := ih htail
      exact ⟨st, .connect hr hpre, hpost⟩
  | keep hl h ih =>
    cases pre with
    | nil =>
      cases hall
      exact ⟨_, .nil _, .keep hl h⟩
    | cons first pre =>
      obtain ⟨rfl, htail⟩ := List.cons.inj hall
      obtain ⟨st, hpre, hpost⟩ := ih htail
      exact ⟨st, .keep hl hpre, hpost⟩
  | lose hl h ih =>
    match pre, hall with
    | [], hall =>
      cases hall
      exact ⟨_, .nil _, .lose hl h⟩
    | [first], hall =>
      cases hall
      cases hev
    | first :: second :: pre, hall =>
      obtain ⟨rfl, hall'⟩ := List.cons.inj hall
      obtain ⟨rfl, htail⟩ := List.cons.inj hall'
      obtain ⟨st, hpre, hpost⟩ := ih htail
      exact ⟨st, .lose hl hpre, hpost⟩

/-- A statement runs on the client that is held by then. -/
theorem split {pre post : List (Event κ)} {client : κ} {sql : String}
    (h : Continues s e a (pre ++ .executed client sql :: post) b) :
    ∃ world, Continues s e a pre ⟨world, some client⟩ ∧
      Continues s e ⟨world, some client⟩ (.executed client sql :: post) b := by
  obtain ⟨st, hpre, hpost⟩ := h.split_at rfl
  cases hpost with
  | keep hl hrest => exact ⟨_, hpre, .keep hl hrest⟩
  | lose hl hrest => exact ⟨_, hpre, .lose hl hrest⟩

/-- A connection that was refused is one that the supplier refuses by then. -/
theorem refused {pre post : List (Event κ)} {fault : Fault}
    (h : Continues s e a (pre ++ .refused fault :: post) b) :
    (s.connect e (worldAfter s e a.world pre)).result = .error fault := by
  obtain ⟨st, hpre, hpost⟩ := h.split_at rfl
  rw [← hpre.world_eq]
  cases hpost with
  | refuse hr _ => exact hr

/-- With a client held, what comes next is one of its statements. -/
theorem executed_next {world : σ} {client : κ} {ev : Event κ}
    (h : Continues s e ⟨world, some client⟩ (ev :: es) b) : ∃ sql, ev = .executed client sql := by
  cases h with
  | keep => exact ⟨_, rfl⟩
  | lose => exact ⟨_, rfl⟩

/-- So if no statement comes before the next one, nothing does. -/
theorem next_executed {world : σ} {mid post : List (Event κ)} {client client' : κ} {sql : String}
    (h : Continues s e ⟨world, some client⟩ (mid ++ .executed client' sql :: post) b)
    (hmid : ∀ ev ∈ mid, ev.isExecuted = false) : mid = [] ∧ client' = client := by
  cases mid with
  | nil =>
    obtain ⟨sql, heq⟩ := executed_next h
    cases heq
    exact ⟨rfl, rfl⟩
  | cons ev mid =>
    obtain ⟨sql, rfl⟩ := executed_next h
    exact absurd (hmid _ List.mem_cons_self) (by simp [Event.isExecuted])

/-- With no client held, refused attempts come before the next statement, and then its client. -/
theorem next_connected {world : σ} {mid post : List (Event κ)} {client : κ} {sql : String}
    (h : Continues s e ⟨world, none⟩ (mid ++ .executed client sql :: post) b)
    (hmid : ∀ ev ∈ mid, ev.isExecuted = false) :
    ∃ faults : List Fault, mid = faults.map .refused ++ [.connected client] := by
  induction mid generalizing world with
  | nil => cases h
  | cons ev mid ih =>
    have hrest : ∀ ev ∈ mid, ev.isExecuted = false := fun ev hev =>
      hmid ev (List.mem_cons_of_mem _ hev)
    cases h with
    | refuse _ h =>
      obtain ⟨faults, rfl⟩ := ih h hrest
      exact ⟨_ :: faults, rfl⟩
    | connect _ h =>
      obtain ⟨rfl, rfl⟩ := next_executed h hrest
      exact ⟨[], rfl⟩

/-- What comes between two statements in a row. -/
theorem consecutive {world : σ} {mid post : List (Event κ)} {client client' : κ} {sql sql' : String}
    (h : Continues s e ⟨world, some client⟩
      (.executed client sql :: (mid ++ .executed client' sql' :: post)) b)
    (hmid : ∀ ev ∈ mid, ev.isExecuted = false) :
    ¬Lost (s.execute client sql world).result ∧ mid = [] ∧ client' = client ∨
    Lost (s.execute client sql world).result ∧
      ∃ faults : List Fault,
        mid = .closed client :: faults.map .refused ++ [.connected client'] := by
  generalize hall : mid ++ .executed client' sql' :: post = all at h
  cases h with
  | keep hl h => exact .inl ⟨hl, next_executed (hall ▸ h) hmid⟩
  | lose hl h =>
    cases mid with
    | nil => cases hall
    | cons ev mid =>
      obtain ⟨rfl, rfl⟩ := List.cons.inj hall
      obtain ⟨faults, rfl⟩ := next_connected h fun ev hev => hmid ev (List.mem_cons_of_mem _ hev)
      exact .inr ⟨hl, faults, rfl⟩

end Continues

namespace Session

open Outline Standing

variable (s : Supplier κ σ) (e : Endpoint)

theorem answers_continues {texts : List String}
    (h : ∀ sql ∈ texts, Policy.classify sql = .admitted) (st : Standing κ σ) :
    Continues s e st (st.answers s e texts).marks (st.answers s e texts).standing := by
  induction texts generalizing st with
  | nil => exact .nil st
  | cons sql rest ih =>
    have hturn := answer_turn s e (h sql (by simp)) st
    have hrest := ih (fun sql' hm => h sql' (by simp [hm])) (st.answer s e sql).2.standing
    rw [answers]
    generalize (st.answer s e sql).2 = o at hturn hrest ⊢
    exact (Continues.of_turn hturn).append hrest

/-- A session takes the turns of its statements, and in the end closes the client that is held. -/
theorem runInteractive_continues (input : Input) (desk : Desk κ σ) :
    ∃ es st, Continues s e desk.standing es st ∧
      requestsOf (runInteractive s e input desk).events =
        es ++ st.held.toList.map .closed := by
  obtain ⟨n, hn⟩ := runInteractive_outline s e input desk
  refine ⟨_, _, answers_continues s e (fun _ => admitted_of_mem_handledTexts) desk.standing,
    (requests_of_rounds s e hn).trans (congrArg (_ ++ ·) ?_)⟩
  generalize (desk.standing.answers s e (handledTexts (input.lines.take n))).standing = st
  obtain ⟨world, held⟩ := st
  cases held <;> rfl

/-- Up to each statement of a session the turns lead to its client. -/
theorem runInteractive_executed (input : Input) (desk : Desk κ σ) {pre post : List (Event κ)}
    {client : κ} {sql : String}
    (h : requestsOf (runInteractive s e input desk).events = pre ++ .executed client sql :: post) :
    let world := worldAfter s e desk.world pre
    Continues s e desk.standing pre ⟨world, some client⟩ ∧
      ∃ post' st, Continues s e ⟨world, some client⟩ (.executed client sql :: post') st ∧
        post = post' ++ st.held.toList.map .closed := by
  obtain ⟨es, st, hes, hrun⟩ := runInteractive_continues s e input desk
  obtain ⟨post', rfl⟩ := split_left (hrun.symm.trans h) (by simp)
  obtain ⟨world, hpre, hpost⟩ := hes.split
  have hworld : world = worldAfter s e desk.world pre := hpre.world_eq
  subst hworld
  exact ⟨hpre, post', st, hpost, by simpa using h.symm.trans hrun⟩

/-- Two statements in a row run on one client, with nothing in between, unless the first one lost
its connection. Then its client is closed, and a new one is opened for the second one. -/
theorem runInteractive_consecutive (input : Input) (desk : Desk κ σ)
    {pre mid post : List (Event κ)} {client client' : κ} {sql sql' : String}
    (h : requestsOf (runInteractive s e input desk).events =
      pre ++ .executed client sql :: (mid ++ .executed client' sql' :: post))
    (hmid : ∀ ev ∈ mid, ev.isExecuted = false) :
    let reply := s.execute client sql (worldAfter s e desk.world pre)
    ¬Lost reply.result ∧ mid = [] ∧ client' = client ∨
    Lost reply.result ∧
      ∃ faults : List Fault,
        mid = .closed client :: faults.map .refused ++ [.connected client'] := by
  obtain ⟨-, post', st, hc, hpost⟩ := runInteractive_executed s e input desk h
  obtain ⟨post'', rfl⟩ := split_left hpost.symm (by simp)
  exact hc.consecutive hmid

/-- A lost connection costs a session its client. A statement that fails otherwise does not. -/
example :
    let first : Rehearsal.Script := ⟨[.error (.query "denied"), .error (.connection "gone")], .ok ()⟩
    let second : Rehearsal.Script := ⟨[.ok (.command 0)], .ok ()⟩
    let input : Input := ⟨[Text.Utf8.encodeString "SELECT 1\nSELECT 2\nUSE shop\n"], .exhausted⟩
    let desk : Desk Nat Rehearsal.Stand := ⟨⟨[.ok first, .ok second], []⟩, none, .unlimited⟩
    requestsOf (runInteractive Rehearsal.scripted .standard input desk).events =
      [.connected 0, .executed 0 "SELECT 1", .executed 0 "SELECT 2", .closed 0,
        .connected 1, .executed 1 "USE shop", .closed 1] := by
  decide +kernel

end Session

end SqlGuard
