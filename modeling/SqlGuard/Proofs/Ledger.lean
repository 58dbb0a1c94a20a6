import SqlGuard.Proofs.Sessions

/-!
# The ledger of clients

`Tracks` reads a history of requests as a ledger: a client is opened when none
is open, statements run on the open client only, and only the open client is
closed. Every part of a session keeps such a ledger, and the client that it
says is open is the one that the desk holds. A ledger balances
(`Tracks.balance`): the clients opened are those closed, in this order, and
perhaps one more.

* `run_tracked`, `history_tracked`: a session that begins with no client open
  keeps a ledger, and so do sessions in a row.
-/
namespace SqlGuard

variable {κ σ α : Type}

/-! ## Ledgers -/

namespace Event

def opened? : Event κ → Option κ
  | connected client => some client
  | _ => none

def closed? : Event κ → Option κ
  | closed client => some client
  | _ => none

end Event

/-- The clients that connecting gave, in order. -/
def opened (events : List (Event κ)) : List κ := events.filterMap Event.opened?

/-- The clients that were closed, in order. -/
def closed (events : List (Event κ)) : List κ := events.filterMap Event.closed?

theorem opened_marksOf (es : List (Event κ)) : opened (marksOf es) = opened es := by
  unfold opened marksOf
  rw [List.filterMap_filter]
  congr 1
  funext ev
  cases ev <;> rfl

theorem closed_marksOf (es : List (Event κ)) : closed (marksOf es) = closed es := by
  unfold closed marksOf
  rw [List.filterMap_filter]
  congr 1
  funext ev
  cases ev <;> rfl

/-- Every connection that succeeds opens a client. -/
theorem length_opened (es : List (Event κ)) : (opened es).length = es.countP Event.isConnected := by
  rw [opened, List.length_filterMap_eq_countP]
  congr 1
  funext ev
  cases ev <;> rfl

theorem length_closed (es : List (Event κ)) : (closed es).length = es.countP Event.isClosed := by
  rw [closed, List.length_filterMap_eq_countP]
  congr 1
  funext ev
  cases ev <;> rfl

/-- The marks lead from one open client, or none, to another. -/
inductive Tracks : Option κ → List (Event κ) → Option κ → Prop
  | nil (client : Option κ) : Tracks client [] client
  | flush {a b : Option κ} {es : List (Event κ)} (h : Tracks a es b) :
    Tracks a (.flushed :: es) b
  | connect {client : κ} {b : Option κ} {es : List (Event κ)} (h : Tracks (some client) es b) :
    Tracks none (.connected client :: es) b
  | refuse {fault : Fault} {b : Option κ} {es : List (Event κ)} (h : Tracks none es b) :
    Tracks none (.refused fault :: es) b
  | execute {client : κ} {sql : String} {b : Option κ} {es : List (Event κ)}
    (h : Tracks (some client) es b) : Tracks (some client) (.executed client sql :: es) b
  | close {client : κ} {b : Option κ} {es : List (Event κ)} (h : Tracks none es b) :
    Tracks (some client) (.closed client :: es) b

namespace Tracks

variable {a b c : Option κ} {es fs : List (Event κ)}

theorem append (h : Tracks a es b) (h' : Tracks b fs c) : Tracks a (es ++ fs) c := by
  induction h with
  | nil => exact h'
  | flush _ ih => exact .flush (ih h')
  | connect _ ih => exact .connect (ih h')
  | refuse _ ih => exact .refuse (ih h')
  | execute _ ih => exact .execute (ih h')
  | close _ ih => exact .close (ih h')

theorem split (h : Tracks a (es ++ fs) c) : ∃ b, Tracks a es b ∧ Tracks b fs c := by
  induction es generalizing a with
  | nil => exact ⟨a, .nil a, h⟩
  | cons ev es ih =>
    cases h with
    | flush h =>
      obtain ⟨b, h1, h2⟩ := ih h
      exact ⟨b, .flush h1, h2⟩
    | connect h =>
      obtain ⟨b, h1, h2⟩ := ih h
      exact ⟨b, .connect h1, h2⟩
    | refuse h =>
      obtain ⟨b, h1, h2⟩ := ih h
      exact ⟨b, .refuse h1, h2⟩
    | execute h =>
      obtain ⟨b, h1, h2⟩ := ih h
      exact ⟨b, .execute h1, h2⟩
    | close h =>
      obtain ⟨b, h1, h2⟩ := ih h
      exact ⟨b, .close h1, h2⟩

/-- What was open and what is opened is closed in this order, but for what stays open. -/
theorem balance (h : Tracks a es b) : a.toList ++ opened es = closed es ++ b.toList := by
  induction h with
  | nil client => simp [opened, closed]
  | flush _ ih => exact ih
  | connect _ ih => exact ih
  | refuse _ ih => exact ih
  | execute _ ih => exact ih
  | close _ ih => exact congrArg (_ :: ·) ih

/-- A ledger of events that begins with no client open. -/
theorem opened_eq (h : Tracks none (marksOf es) b) : opened es = closed es ++ b.toList := by
  have hb := h.balance
  rwa [opened_marksOf, closed_marksOf] at hb

end Tracks

/-! ## What keeps a ledger -/

/-- From the standing on, the outline is a ledger of the client that is kept open. -/
def Outline.Tracked (st : Standing κ σ) (o : Outline κ σ) : Prop :=
  Tracks st.held o.marks o.standing.held

theorem Outline.Tracked.next {st : Standing κ σ} {o : Outline κ σ}
    {f : Standing κ σ → Outline κ σ} (h : o.Tracked st) (hf : (f o.standing).Tracked o.standing) :
    (o.next f).Tracked st := Tracks.append h hf

theorem Outline.Tracked.executed {st : Standing κ σ} {client : κ} {sql : String} {world : σ}
    {o : Outline κ σ} (h : st.held = some client) (ho : o.Tracked ⟨world, st.held⟩) :
    (o.mark (.executed client sql)).Tracked st := by
  unfold Tracked at ho ⊢
  dsimp only [mark] at ho ⊢
  rw [h] at ho ⊢
  exact .execute ho

namespace Standing

open Outline

variable (s : Supplier κ σ) (e : Endpoint)

theorem still_tracked (st : Standing κ σ) : (still st).Tracked st := .nil _

theorem dismiss_tracked (st : Standing κ σ) : (st.dismiss s).Tracked st := by
  unfold dismiss Tracked
  split
  · exact .nil _
  · rename_i client h
    rw [h]
    exact .close (.nil none)

theorem client_tracked (st : Standing κ σ) : (st.client s e).2.Tracked st := by
  unfold Standing.client Tracked
  split
  · exact .nil _
  · rename_i h
    rw [h]
    cases hr : (s.connect e st.world).result with
    | error fault => simpa [hr, Event.attempt, Except.toOption] using Tracks.refuse (.nil none)
    | ok client =>
      simpa [hr, Event.attempt, Except.toOption] using Tracks.connect (.nil (some client))

theorem execute_tracked (client : κ) (sql : String) (st : Standing κ σ)
    (h : st.held = some client) : (st.execute s client sql).2.Tracked st := by
  unfold Standing.execute
  dsimp only
  split
  · exact Tracked.executed h (dismiss_tracked s _)
  · exact Tracked.executed h (still_tracked _)

theorem answer_tracked (sql : String) (st : Standing κ σ) :
    (st.answer s e sql).2.Tracked st := by
  unfold answer
  cases Policy.classify sql with
  | rejected reason => exact still_tracked st
  | admitted =>
    have hc := client_tracked s e st
    dsimp only
    split
    · rename_i fault o ho
      rwa [ho] at hc
    · rename_i client o ho
      rw [ho] at hc
      exact hc.next (execute_tracked s client sql _ (client_held s e ho))

theorem reply_tracked (line : List UInt8) (st : Standing κ σ) :
    (st.reply s e line).2.Tracked st := by
  rcases reply_cases s e line st with ⟨-, h⟩ | ⟨sql, -, h, -⟩
  · exact h ▸ still_tracked st
  · exact h ▸ answer_tracked s e sql st

theorem single_tracked (sql : String) (st : Standing κ σ) (h : st.held = none) :
    (st.single s e sql).2.Tracked st := by
  unfold single Tracked
  rw [h]
  cases Policy.classify sql with
  | rejected reason => simpa [still, h] using Tracks.nil none
  | admitted =>
    dsimp only
    cases (s.connect e st.world).result with
    | error fault => simpa [h] using Tracks.refuse (.nil none)
    | ok client => simpa [h] using Tracks.connect (.execute (.close (.nil none)))

end Standing

/-! ## Acts that keep the ledger -/

namespace Act

variable {β : Type}

/-- The requests of the act, whether it fails or not, go on with the ledger of the desk. -/
def Keeps (act : Act κ σ α) : Prop := ∀ desk, (act desk).outline.Tracked desk.standing

theorem Still.keeps {act : Act κ σ α} (h : Still act) : Keeps act := fun desk =>
  h desk ▸ Standing.still_tracked desk.standing

theorem Keeps.bind {act : Act κ σ α} {f : α → Act κ σ β} (h : Keeps act) (hf : ∀ a, Keeps (f a)) :
    Keeps (act >>= f) := by
  intro desk
  cases hr : (act desk).result with
  | error fault => rw [bind_error hr]; exact h desk
  | ok a =>
    rw [bind_outline hr]
    exact (h desk).next (hf a (act desk).desk)

theorem Keeps.flush : Keeps (Act.flush : Act κ σ Unit) := by
  intro desk
  unfold Act.flush
  split
  · exact .flush (.nil _)
  · exact .nil _

end Act

namespace Session

open Act Outline Standing

variable (s : Supplier κ σ) (e : Endpoint)

theorem showPrompt_keeps : Keeps (showPrompt : Act κ σ Unit) :=
  (Still.write _).keeps.bind fun _ => .flush

theorem handleLine_keeps (line : List UInt8) : Keeps (handleLine s e line) := fun desk =>
  handleLine_outline s e line desk ▸ reply_tracked s e line desk.standing

theorem round_keeps (line : List UInt8) : Keeps (round s e line) :=
  showPrompt_keeps.bind fun _ => handleLine_keeps s e line

theorem converse_keeps (ending : Ending) (lines : List (List UInt8)) :
    Keeps (converse s e ending lines) := by
  induction lines with
  | nil =>
    rw [converse]
    exact showPrompt_keeps.bind fun _ => (endInput_still ending).keeps
  | cons line rest ih =>
    rw [converse_cons]
    refine (round_keeps s e line).bind fun next => ?_
    cases next with
    | stop => exact (Still.done ()).keeps
    | goOn => exact ih

/-- A session that begins with no client open keeps a ledger that ends with none open. -/
theorem run_tracked (session : Session) {desk : Desk κ σ} (h : desk.held = none) :
    Tracks none (marksOf (session.run s e desk).events) none := by
  have key : (session.run s e desk).outline.Tracked desk.standing := by
    cases session with
    | once sql =>
      show (runOnce s e sql desk).outline.Tracked _
      rw [runOnce_outline]
      exact single_tracked s e sql desk.standing h
    | interactive input =>
      refine (andThen_disconnect s _ desk).1 ▸ Tracked.next ?_ (dismiss_tracked s _)
      exact ((Still.say _).keeps.bind fun _ => converse_keeps s e input.ending input.lines) desk
  have hd : (session.run s e desk).desk.held = none := run_held s e session h
  unfold Tracked at key
  rwa [show desk.standing.held = none from h,
    show (session.run s e desk).outline.standing.held = none from hd] at key

/-- The events of stages that follow each other. -/
def history (stages : List (Stage κ σ α)) : List (Event κ) := stages.flatMap Stage.events

theorem history_tracked {begun : List (Session × Desk κ σ)} (h : ∀ b ∈ begun, b.2.held = none) :
    Tracks none (marksOf (history (begun.map fun b => b.1.run s e b.2))) none := by
  induction begun with
  | nil => exact .nil none
  | cons b begun ih =>
    rw [history, List.map_cons, List.flatMap_cons, marksOf_append]
    exact (run_tracked s e b.1 (h b (by simp))).append (ih fun b' hb => h b' (by simp [hb]))

end Session

end SqlGuard
