import SqlGuard.Proofs.Breakdowns

/-!
# Closed links

A client may go on asking after it has closed its connection. `handleAll` takes
any requests in a row. Closing may fail, so how a driver ends the connection is
left open here; on the network it is `quit`. A statement leaves a link as open as
it was (`execute_isOpen`) and a request for closing closes it (`handle_isOpen`),
whatever they come to. On a closed link no request does anything (`handle_closed`).

* `handleAll_isOpen`, `handleAll_closed`: the same for any requests in a row.
* `network_closed`: clients of the network.
* `closed_for_good`: what follows for a client that is closed at some time.
-/
namespace SqlGuard.Server

namespace Link

/-- What a client is asked for. -/
inductive Request
  | execute (sql : String)
  | close
  deriving DecidableEq, Repr

/-- What a request comes to. -/
inductive Response
  | answer (result : Except Fault Answer)
  | closing (result : Except Fault Unit)

/-- What a request comes to on a closed link. -/
def Request.refusal : Request → Response
  | execute _ => .answer (.error (.connection "Connection is closed"))
  | close => .closing (.ok ())

section Requests

variable (goodbye : Goodbye) (l : Link)

def handle : Request → Response × Link
  | .execute sql => (.answer (l.execute sql).result, (l.execute sql).state)
  | .close => (.closing (l.closeWith goodbye).result, (l.closeWith goodbye).state)

/-- Handles one request after another. -/
def handleAll (l : Link) : List Request → List Response × Link
  | [] => ([], l)
  | request :: rest =>
    let first := l.handle goodbye request
    let later := handleAll first.2 rest
    (first.1 :: later.1, later.2)

/-! ## One request -/

/-- A link is closed even if the goodbye fails. -/
theorem closeWith_isOpen : (l.closeWith goodbye).state.isOpen = false := by
  unfold closeWith
  split
  · split <;> rfl
  · rename_i h
    exact Bool.eq_false_iff.mpr h

theorem closeWith_result (h : l.isOpen = true) : (l.closeWith goodbye).result =
    (goodbye l).1.mapError fun failure => .connection failure.text := by
  rw [closeWith, if_pos h]
  rcases goodbye l with ⟨failure | _, _⟩ <;> rfl

/-- Only a request for closing closes a link. -/
theorem handle_isOpen (request : Request) :
    (l.handle goodbye request).2.isOpen = true ↔ l.isOpen = true ∧ request ≠ .close := by
  cases request with
  | execute sql => simp [handle, execute_isOpen]
  | close => simp [handle, closeWith_isOpen]

/-- Nothing is sent on a closed link, and nothing changes. -/
theorem execute_closed (h : l.isOpen = false) (sql : String) :
    l.execute sql = ⟨.error (.connection "Connection is closed"), [], l⟩ := by
  rw [execute, if_neg (by simp [h])]

theorem closeWith_closed (h : l.isOpen = false) : l.closeWith goodbye = ⟨.ok (), [], l⟩ := by
  rw [closeWith, if_neg (by simp [h])]

theorem handle_closed (h : l.isOpen = false) (request : Request) :
    l.handle goodbye request = (request.refusal, l) := by
  cases request with
  | execute sql => rw [handle, execute_closed l h]; rfl
  | close => rw [handle, closeWith_closed goodbye l h]; rfl

/-! ## Requests in a row -/

theorem handleAll_append (before after : List Request) :
    l.handleAll goodbye (before ++ after) =
      let first := l.handleAll goodbye before
      let later := first.2.handleAll goodbye after
      (first.1 ++ later.1, later.2) := by
  induction before generalizing l with
  | nil => rfl
  | cons request before ih =>
    rw [List.cons_append, handleAll, ih]
    rfl

theorem handleAll_isOpen (requests : List Request) :
    (l.handleAll goodbye requests).2.isOpen = true ↔ l.isOpen = true ∧ .close ∉ requests := by
  induction requests generalizing l with
  | nil => simp [handleAll]
  | cons request rest ih =>
    rw [handleAll, ih, handle_isOpen, List.mem_cons, not_or, and_assoc, ne_comm]

theorem handleAll_closed (h : l.isOpen = false) (requests : List Request) :
    l.handleAll goodbye requests = (requests.map Request.refusal, l) := by
  induction requests with
  | nil => rfl
  | cons request rest ih =>
    rw [handleAll, handle_closed goodbye l h, ih]
    rfl

end Requests

end Link

/-! ## Clients of the network -/

/-- What leaves a link as it is leaves the whole network as it is. -/
theorem Network.ask_unchanged {α : Type} {request : Link → Reply Link α} {client : Nat}
    {n : Network} {l : Link} (hl : n.links[client]? = some l) {result : Except Fault α}
    {notes : List Note} (h : request l = ⟨result, notes, l⟩) :
    ask request client n = ⟨result, notes, n⟩ := by
  obtain ⟨_, hget⟩ := List.getElem?_eq_some_iff.mp hl
  have hset : n.links.set client l = n.links := by rw [← hget, List.set_getElem_self]
  rw [ask, hl]
  dsimp only
  rw [h, hset]

theorem network_closed {n : Network} {client : Nat} {l : Link} (hl : n.links[client]? = some l)
    (h : l.isOpen = false) :
    (∀ sql, network.execute client sql n =
      ⟨.error (.connection "Connection is closed"), [], n⟩) ∧
      network.close client n = ⟨.ok (), [], n⟩ :=
  ⟨fun sql => Network.ask_unchanged hl (l.execute_closed h sql),
    Network.ask_unchanged hl (l.closeWith_closed Link.quit h)⟩

namespace Link

/-- A client that has connected has an open link. No statement closes a link, whatever it comes to,
and any goodbye does, even one that fails; so a link is open as long as no request for closing was
among the requests. From the first one on, statements are refused and closing succeeds, and the link
with all that the server has been asked stays as it is. Over the network, no server learns of what a
closed client is asked for. -/
theorem closed_for_good :
    (∀ (e : Endpoint) (n : Network) (client : Nat), (n.connect e).result = .ok client →
      (n.connect e).state.Reaches client) ∧
    (∀ (goodbye : Goodbye) (l : Link),
      (∀ sql, (l.execute sql).state.isOpen = l.isOpen) ∧
      (l.isOpen = true → (l.closeWith goodbye).result =
        (goodbye l).1.mapError fun failure => .connection failure.text) ∧
      (∀ requests, (l.handleAll goodbye requests).2.isOpen = true ↔
        l.isOpen = true ∧ .close ∉ requests) ∧
      ∀ before after : List Request,
        let closed := l.handleAll goodbye (before ++ [.close])
        l.handleAll goodbye (before ++ .close :: after) =
          (closed.1 ++ after.map Request.refusal, closed.2)) ∧
    ∀ (n : Network) (client : Nat) (l : Link), n.links[client]? = some l → l.isOpen = false →
      (∀ sql, network.execute client sql n =
        ⟨.error (.connection "Connection is closed"), [], n⟩) ∧
        network.close client n = ⟨.ok (), [], n⟩ := by
  refine ⟨fun e n client => Network.connect_reaches, fun goodbye l =>
    ⟨l.execute_isOpen, l.closeWith_result goodbye, l.handleAll_isOpen goodbye,
      fun before after => ?_⟩, fun n client l => network_closed⟩
  intro closed
  have hclosed : closed.2.isOpen = false := by
    simp [closed, ← Bool.not_eq_true, handleAll_isOpen]
  -- so all that comes behind is handled on a closed link
  have hbehind : before ++ .close :: after = before ++ [.close] ++ after := by simp
  rw [hbehind, handleAll_append]
  dsimp only
  rw [handleAll_closed goodbye closed.2 hclosed]

/-- A link that breaks with its second statement. -/
def breaking : Link :=
  ⟨true, true, [.plain, ⟨[.dropped], .error notDescribable⟩], .plain, [], ["login user=root"]⟩

/-- What was sent comes back with this failure. -/
def brokenPipe : Failure := .io "Broken pipe (os error 32)"

/-- The link breaks, the goodbye fails, and then nothing is sent any more. -/
theorem breaking_closed :
    let goodbye : Goodbye := fun l => (.error brokenPipe, l)
    let run := breaking.handleAll goodbye
      [.execute "USE shop", .execute "SELECT 1", .close, .execute "SELECT 2", .close]
    run.1 = [.answer (.ok (.command 0)), .answer (.error Failure.connectionEnded.whileExecuting),
      .closing (.error (.connection brokenPipe.text)),
      .answer (.error (.connection "Connection is closed")), .closing (.ok ())] ∧
    run.2.record = ["login user=root", "query USE shop", "prepare USE shop", "query SELECT 1"] ∧
    run.2.isOpen = false := by
  intro goodbye run
  obtain ⟨-, hlinks, -⟩ := closed_for_good
  obtain ⟨-, -, -, hbehind⟩ := hlinks goodbye breaking
  have hrun : run = _ :=
    hbehind [.execute "USE shop", .execute "SELECT 1"] [.execute "SELECT 2", .close]
  rw [hrun]
  refine ⟨?_, ?_, ?_⟩
  · rfl
  · rfl
  · rfl

end Link

end SqlGuard.Server
