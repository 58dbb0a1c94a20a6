import SqlGuard.Proofs.Continuity
import SqlGuard.Proofs.Octets
import SqlGuard.Server.Network

/-!
# Failures of a server's replies

A reply fails with the first thing that goes wrong in it. If that is an error
packet, wherever it stands in the reply (`ErrsWith`), the server has reported an
error, and the link stays usable; but a packet that is no text is as bad as a
link that breaks.

* `Failure.whileExecuting_lost`, `Failure.whileExecuting_query`: which failures lose the
  connection, and which are faults of the statement.
* `Link.execute_faults`: how the statements of an open link fail.
* `session_continuity`: what this means for sessions at the prompt.
* `garbled_error_lost`: an error packet that is no text loses the connection.
-/
namespace SqlGuard

/-- Where one step after another fails, one of them does. -/
theorem error_of_bind {ε α β : Type} {step : Except ε α} {next : α → Except ε β} {cause : ε}
    (h : step >>= next = .error cause) :
    step = .error cause ∨ ∃ a, step = .ok a ∧ next a = .error cause := by
  cases step with
  | error _ => exact .inl (by cases h; rfl)
  | ok a => exact .inr ⟨a, rfl, h⟩

namespace Server

/-! ## Replies that fail -/

namespace Failure

/-- The communication with the server failed, or made no sense. -/
def Communication : Failure → Prop
  | io _ | tls _ | protocol _ => True
  | _ => False

theorem whileExecuting_lost (failure : Failure) :
    Lost (.error failure.whileExecuting) ↔ failure.Communication := by
  cases failure <;> simp [Lost, whileExecuting, Communication]

/-- Nothing but an error that the server reports is the fault of the statement. -/
theorem whileExecuting_query (failure : Failure) :
    (∃ detail, failure.whileExecuting = .query detail) ↔ ∃ error, failure = .server error := by
  cases failure <;> simp [whileExecuting]

theorem textOf_error {octets : List UInt8} {failure : Failure}
    (h : textOf octets = .error failure) :
    failure.Communication := by
  unfold textOf at h
  split at h
  · cases h
  · cases h
    trivial

end Failure

theorem textOf_encodeString (text : String) :
    Failure.textOf (Text.Utf8.encodeString text) = .ok text := by
  rw [Failure.textOf, Text.Utf8.decodeString_encodeString]

/-- A packet made of texts is read as what it was made of: a state takes five octets, and a message
without a state must not look like one. -/
theorem ErrorPacket.read_ofParts (number : Nat) (state : Option String) (message : String)
    (h : match state with
      | some state => (Text.Utf8.encodeString state).length = 5
      | none => (Text.Utf8.encodeString message).head? ≠ some stateMark) :
    (ofParts number state (Text.Utf8.encodeString message)).read = .ok ⟨number, state, message⟩ := by
  cases state with
  | some state =>
    have htake : (Text.Utf8.encodeString state ++ Text.Utf8.encodeString message).take 5 =
      Text.Utf8.encodeString state := List.take_left' h
    have hdrop : (Text.Utf8.encodeString state ++ Text.Utf8.encodeString message).drop 5 =
      Text.Utf8.encodeString message := List.drop_left' h
    rw [ofParts, read]
    dsimp only
    rw [if_pos rfl, htake, hdrop, textOf_encodeString, textOf_encodeString]
    rfl
  | none =>
    have hmessage := textOf_encodeString message
    rw [ofParts, read]
    dsimp only at h ⊢
    generalize Text.Utf8.encodeString message = octets at h hmessage ⊢
    cases octets with
    | nil =>
      cases hmessage
      rfl
    | cons first rest =>
      dsimp only
      rw [if_neg fun heq => h (by rw [heq]; rfl), hmessage]
      rfl

/-- A packet that cannot be read is no sensible communication. -/
theorem ErrorPacket.read_error {packet : ErrorPacket} {failure : Failure}
    (h : packet.read = .error failure) : failure.Communication := by
  unfold read at h
  split at h
  · cases h
  split at h
  · rcases error_of_bind h with hstate | ⟨_, -, h⟩
    · exact Failure.textOf_error hstate
    rcases error_of_bind h with hmessage | ⟨_, -, h⟩
    · exact Failure.textOf_error hmessage
    · cases h
  · rcases error_of_bind h with hmessage | ⟨_, -, h⟩
    · exact Failure.textOf_error hmessage
    · cases h

/-- The first thing that goes wrong in a reply is this error packet: it stands at the start, behind
some rows of the first result, or in a later result. -/
inductive ErrsWith (packet : ErrorPacket) : List ResultPacket → Prop
  | start (rest : List ResultPacket) : ErrsWith packet (.error packet :: rest)
  | between {columns : List ColumnPacket} {known : List Column}
    (hc : columns.mapM ColumnPacket.read = .ok known) (before : List (List (Option (List UInt8))))
    (after : List RowPacket) (rest : List ResultPacket) :
    ErrsWith packet (.rows columns (before.map .cells ++ .error packet :: after) :: rest)
  | later {first : ResultPacket} {result : ResultSet} {rest : List ResultPacket}
    (hf : first.read = .ok result) (h : ErrsWith packet rest) : ErrsWith packet (first :: rest)

theorem mapM_cells (rows : List (List (Option (List UInt8)))) :
    (rows.map .cells).mapM RowPacket.read = .ok rows := by
  induction rows with
  | nil => rfl
  | cons row rows ih =>
    rw [List.map_cons, List.mapM_cons, ih]
    rfl

theorem ErrsWith.readReply {packet : ErrorPacket} {reply : List ResultPacket}
    (h : ErrsWith packet reply) : readReply reply = .error (reported packet) := by
  unfold Server.readReply
  induction h with
  | start rest => rfl
  | between hc before after rest =>
    have hrows : (before.map RowPacket.cells ++ RowPacket.error packet :: after).mapM
        RowPacket.read = .error (reported packet) := by
      rw [List.mapM_append, mapM_cells]
      rfl
    rw [List.mapM_cons, ResultPacket.read, hc, hrows]
    rfl
  | later hf _ ih =>
    rw [List.mapM_cons, hf, ih]
    rfl

/-! ## Links -/

namespace Link

/-- What the next statement brings about. -/
def upcoming (l : Link) : StatementScript := l.statements.head?.getD .plain

/-- The link once a statement has gone out. -/
def sent (l : Link) (sql : String) : Link :=
  { l.recorded ("query " ++ sql) with statements := l.statements.tail, current := l.upcoming }

theorem recorded_isOpen (l : Link) (entry : String) : (l.recorded entry).isOpen = l.isOpen := by
  unfold recorded
  split <;> rfl

theorem sent_isOpen (l : Link) (sql : String) : (l.sent sql).isOpen = l.isOpen :=
  recorded_isOpen l _

theorem sent_alive (l : Link) (sql : String) : (l.sent sql).alive = l.alive := by
  unfold sent recorded
  split <;> rfl

theorem send_alive {l : Link} (h : l.alive = true) (sql : String) :
    l.send sql = match readReply l.upcoming.reply with
      | .ok results => (.ok results, l.sent sql)
      | .error b => (.error b, (l.sent sql).after b) := by
  obtain ⟨isOpen, alive, statements, current, described, record⟩ := l
  cases h
  unfold send sent upcoming
  cases statements <;> rfl

/-- A statement that goes out fails with what its reply fails with. -/
theorem execute_open {l : Link} (h : l.isOpen = true) (sql : String) :
    (∀ fault, (l.execute sql).result = .error fault ↔
      ∃ b, (l.send sql).1 = .error b ∧ fault = b.failure.whileExecuting) ∧
    ∀ b, (l.send sql).1 = .error b → (l.execute sql).state = (l.send sql).2 := by
  unfold execute
  rw [if_pos h]
  rcases l.send sql with ⟨b | results, l'⟩
  · refine ⟨fun fault => ?_, fun _ _ => rfl⟩
    simp only [Except.error.injEq, exists_eq_left']
    exact eq_comm
  · exact ⟨fun fault => by simp, fun b hb => by cases hb⟩

/-- How the statements of a link fail that the client has not closed. -/
structure Faults (l : Link) (sql : String) : Prop where
  /-- Every fault is what a failure of the reply becomes. -/
  fails : ∀ fault, (l.execute sql).result = .error fault ↔
    ∃ b, (l.send sql).1 = .error b ∧ fault = b.failure.whileExecuting
  /-- The connection is lost just if the communication failed. -/
  lost : ∀ b, (l.send sql).1 = .error b →
    (Lost (l.execute sql).result ↔ b.failure.Communication)
  /-- An error that the server reports is told, and leaves the link as usable as before. -/
  reported : ∀ packet error, l.alive = true → ErrsWith packet l.upcoming.reply →
    packet.read = .ok error →
    (l.execute sql).result =
        .error (.query ("ERROR " ++ Failure.numberText error ++ ": " ++ error.message)) ∧
      (l.execute sql).state = l.sent sql ∧ (l.sent sql).isOpen = true ∧ (l.sent sql).alive = true
  /-- An error that is no text is a failure of the communication. -/
  garbled : ∀ packet failure, l.alive = true → ErrsWith packet l.upcoming.reply →
    packet.read = .error failure → Lost (l.execute sql).result

/-- A reported error does not end the connection. -/
theorem after_reported (l : Link) (packet : ErrorPacket) :
    l.after (Server.reported packet) = l := by
  simp [after, Server.reported]

theorem send_errs {l : Link} (ha : l.alive = true) {packet : ErrorPacket}
    (h : ErrsWith packet l.upcoming.reply) (sql : String) :
    l.send sql = (.error (Server.reported packet), l.sent sql) := by
  rw [send_alive ha, h.readReply]
  exact congrArg (Prod.mk _) (after_reported (l.sent sql) packet)

theorem execute_faults {l : Link} (h : l.isOpen = true) (sql : String) : l.Faults sql := by
  obtain ⟨hfails, hstate⟩ := execute_open h sql
  have hlost : ∀ b, (l.send sql).1 = .error b →
      (Lost (l.execute sql).result ↔ b.failure.Communication) := fun b hb => by
    rw [(hfails _).mpr ⟨b, hb, rfl⟩]
    exact Failure.whileExecuting_lost b.failure
  refine ⟨hfails, hlost, fun packet error ha he hr => ?_, fun packet failure ha he hr => ?_⟩
  · have hsend : (l.send sql).1 = .error (Server.reported packet) :=
      congrArg Prod.fst (send_errs ha he sql)
    have hfailure : packet.failure = .server error := by rw [ErrorPacket.failure, hr]
    refine ⟨(hfails _).mpr ⟨_, hsend, ?_⟩, (hstate _ hsend).trans ?_,
      (sent_isOpen l sql).trans h, (sent_alive l sql).trans ha⟩
    · show _ = packet.failure.whileExecuting
      rw [hfailure]
      rfl
    · exact congrArg Prod.snd (send_errs ha he sql)
  · have hsend : (l.send sql).1 = .error (Server.reported packet) :=
      congrArg Prod.fst (send_errs ha he sql)
    have hfailure : packet.failure = failure := by rw [ErrorPacket.failure, hr]
    refine (hlost _ hsend).mpr ?_
    show packet.failure.Communication
    rw [hfailure]
    exact packet.read_error hr

/-! ### Links stay open -/

theorem send_isOpen (l : Link) (sql : String) : (l.send sql).2.isOpen = l.isOpen := by
  by_cases h : l.alive = true
  · rw [send_alive h]
    split <;> exact sent_isOpen l sql
  · rw [send, if_neg h]

theorem describe_isOpen (l : Link) (sql : String) : (l.describe sql).2.isOpen = l.isOpen := by
  unfold describe
  split
  · rfl
  split
  · dsimp only
    split <;> exact recorded_isOpen l _
  · rfl

theorem describeRowless_isOpen (l : Link) (sql : String) (first : ResultSet) :
    (l.describeRowless sql first).2.2.isOpen = l.isOpen := by
  have hd := describe_isOpen l sql
  unfold describeRowless
  split
  · split <;> (rename_i hl; rw [hl] at hd; exact hd)
  · rfl

/-- Only the client itself closes a link. -/
theorem execute_isOpen (l : Link) (sql : String) : (l.execute sql).state.isOpen = l.isOpen := by
  have hsend := send_isOpen l sql
  unfold execute
  split
  · generalize l.send sql = outcome at hsend
    obtain ⟨b | results, l'⟩ := outcome
    · exact hsend
    · exact (describeRowless_isOpen l' sql _).trans hsend
  · rfl

end Link

/-! ## Clients of the network -/

/-- The client has a link that it has not closed. -/
def Network.Reaches (n : Network) (client : Nat) : Prop :=
  ∃ l, n.links[client]? = some l ∧ l.isOpen = true

namespace Network

theorem openLink_isOpen {script : ConnectionScript} {e : Endpoint} {l : Link}
    (h : openLink script e = (none, l)) : l.isOpen = true := by
  unfold openLink at h
  split at h <;> cases h
  rfl

theorem connect_reaches {e : Endpoint} {n : Network} {client : Nat}
    (h : (n.connect e).result = .ok client) : (n.connect e).state.Reaches client := by
  unfold connect at h ⊢
  cases ha : n.accept e with
  | mk result n' =>
    rw [ha] at h
    cases result with
    | error failure => cases h
    | ok client' =>
      cases h
      unfold accept at ha
      split at ha
      · cases ha
      split at ha
      · rename_i scripts _ _
        cases hl : openLink (scripts.head?.getD exhausted) e with
        | mk failure l =>
          rw [hl] at ha
          cases failure with
          | some failure => cases ha
          | none =>
            cases ha
            exact ⟨l, by simp, openLink_isOpen hl⟩
      · cases ha

/-- Executing a statement is a matter of the client's link. -/
theorem execute_link {n : Network} {client : Nat} {l : Link} (h : n.links[client]? = some l)
    (sql : String) :
    (network.execute client sql n).result = (l.execute sql).result ∧
      (network.execute client sql n).state.links[client]? = some (l.execute sql).state := by
  have hlt : client < n.links.length := (List.getElem?_eq_some_iff.mp h).1
  show (ask _ client n).result = _ ∧ (ask _ client n).state.links[client]? = _
  unfold ask
  rw [h]
  exact ⟨rfl, by simp [hlt]⟩

theorem execute_reaches {n : Network} {client : Nat} (h : n.Reaches client) (sql : String) :
    (network.execute client sql n).state.Reaches client := by
  obtain ⟨l, hl, ho⟩ := h
  exact ⟨_, (execute_link hl sql).2, (l.execute_isOpen sql).trans ho⟩

end Network

/-- Through the turns of a session, the client that is held has an open link. -/
theorem network_reaches {e : Endpoint} {a b : Standing Nat Network} {es : List (Event Nat)}
    (h : Continues network e a es b)
    (ha : ∀ client, a.held = some client → a.world.Reaches client) :
    ∀ client, b.held = some client → b.world.Reaches client := by
  induction h with
  | nil => exact ha
  | refuse _ _ ih => exact ih fun _ hc => by cases hc
  | connect hr _ ih =>
    refine ih fun client hc => ?_
    cases hc
    exact Network.connect_reaches hr
  | keep _ _ ih =>
    refine ih fun client hc => ?_
    cases hc
    exact Network.execute_reaches (ha _ rfl) _
  | lose _ _ ih => exact ih fun _ hc => by cases hc

/-! ## Sessions over the network -/

open Session in
/-- At the prompt, an admitted statement takes one turn: a connection is asked for just if no client
is held, and the client that runs the statement is held behind it unless its connection is lost;
every other line leaves all as it is. So two statements in a row run on one client, unless the
first one lost its connection. Over the network every statement runs on an open link. Of all that a
connection can fail with, just the failures of the communication lose it, and just the errors that
the server reports become faults of the statement, which are told and leave the link open. -/
theorem session_continuity :
    (∀ {κ σ : Type} (s : Supplier κ σ) (e : Endpoint),
      (∀ (line : List UInt8) (desk : Desk κ σ),
        let stage := handleLine s e line desk
        match Line.admitted? line with
        | some sql =>
          Standing.Turn s e sql desk.standing (requestsOf stage.events) stage.desk.standing
        | none => requestsOf stage.events = [] ∧ stage.desk.standing = desk.standing) ∧
      ∀ (input : Input) (desk : Desk κ σ) (pre mid post : List (Event κ)) (client client' : κ)
        (sql sql' : String),
        requestsOf (runInteractive s e input desk).events =
          pre ++ .executed client sql :: (mid ++ .executed client' sql' :: post) →
        (∀ ev ∈ mid, ev.isExecuted = false) →
        let reply := s.execute client sql (worldAfter s e desk.world pre)
        ¬Lost reply.result ∧ mid = [] ∧ client' = client ∨
        Lost reply.result ∧ ∃ faults : List Fault,
          mid = .closed client :: faults.map .refused ++ [.connected client']) ∧
    (∀ (e : Endpoint) (input : Input) (n : Network) (t : Terminal) (pre post : List (Event Nat))
      (client : Nat) (sql : String),
      requestsOf (runInteractive network e input ⟨n, none, t⟩).events =
        pre ++ .executed client sql :: post →
      let world := worldAfter network e n pre
      let reply := network.execute client sql world
      ∃ l, world.links[client]? = some l ∧ l.isOpen = true ∧
        reply.result = (l.execute sql).result ∧
        reply.state.links[client]? = some (l.execute sql).state) ∧
    (∀ failure : Failure, (Lost (.error failure.whileExecuting) ↔ failure.Communication) ∧
      ((∃ detail, failure.whileExecuting = .query detail) ↔ ∃ error, failure = .server error)) ∧
    ∀ (l : Link) (sql : String), l.isOpen = true → l.Faults sql := by
  refine ⟨fun s e => ⟨handleLine_turn s e, fun input desk pre mid post client client' sql sql' h =>
    runInteractive_consecutive s e input desk h⟩, fun e input n t pre post client sql h => ?_,
    fun failure => ⟨failure.whileExecuting_lost, failure.whileExecuting_query⟩,
    fun l sql h => l.execute_faults h sql⟩
  obtain ⟨hpre, -⟩ := runInteractive_executed network e input ⟨n, none, t⟩ h
  obtain ⟨l, hl, ho⟩ := network_reaches hpre (fun _ hc => by cases hc) client rfl
  exact ⟨l, hl, ho, Network.execute_link hl sql⟩

/-- Not every error packet is a server's report: one whose message is no text loses the
connection. -/
theorem garbled_error_lost :
    ¬∀ (l : Link) (sql : String) (packet : ErrorPacket), l.isOpen = true → l.alive = true →
      ErrsWith packet l.upcoming.reply →
      ∃ detail, (l.execute sql).result = .error (.query detail) := by
  intro h
  let packet : ErrorPacket := .ofParts 1064 none [0xFF]
  let l : Link := ⟨true, true, [⟨[.error packet], .error notDescribable⟩], .plain, [], []⟩
  obtain ⟨detail, hquery⟩ := h l "SELECT 1" packet rfl rfl (.start [])
  obtain ⟨_, hlost⟩ : Lost (l.execute "SELECT 1").result :=
    (l.execute_faults rfl "SELECT 1").garbled packet
      (.protocol "invalid utf-8 sequence of 1 bytes from index 0") rfl (.start []) rfl
  rw [hquery] at hlost
  cases hlost

end Server

end SqlGuard
