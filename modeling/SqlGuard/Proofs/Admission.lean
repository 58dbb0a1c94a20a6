import SqlGuard.Proofs.Ledger

/-!
# The gate in front of the database

While a session runs there is at most one text in hand: its only statement, or
the statement on the line behind the last prompt (`Session.inHand`). `Gated`
says that whoever connects or executes has an admitted text in hand, and that
the text executed is this very text.

* `runAll_gated`: sessions in a row are gated, and make no request at all if no
  text among theirs is admitted. A client by itself sees just the admitted ones
  of any texts (`Execution.series`).
-/
namespace SqlGuard

variable {κ σ α : Type}

/-! ## Gated histories -/

namespace Event

def isFlush : Event κ → Bool
  | flushed => true
  | _ => false

/-- With this text in hand, the event may happen: only an admitted text makes a session connect,
and only the text itself is executed. -/
def AllowedBy (text : Option String) : Event κ → Prop
  | connected _ | refused _ => ∃ sql, text = some sql ∧ Policy.classify sql = .admitted
  | executed _ sql => text = some sql ∧ Policy.classify sql = .admitted
  | _ => True

end Event

/-- How many prompts were flushed. -/
def prompts (events : List (Event κ)) : Nat := events.countP Event.isFlush

/-- Every event behind `n` prompts is allowed by the text that is in hand there. -/
def Gated (hand : Nat → Option String) : Nat → List (Event κ) → Prop
  | _, [] => True
  | n, ev :: es => ev.AllowedBy (hand n) ∧ Gated hand (n + prompts [ev]) es

namespace Gated

variable {hand : Nat → Option String} {n : Nat} {es fs : List (Event κ)}

theorem append : Gated hand n (es ++ fs) ↔ Gated hand n es ∧ Gated hand (n + prompts es) fs := by
  induction es generalizing n with
  | nil => simp [Gated, prompts]
  | cons ev es ih =>
    rw [List.cons_append, Gated, Gated, ih, and_assoc, Nat.add_assoc]
    simp only [prompts, List.countP_cons, List.countP_nil, Nat.zero_add,
      Nat.add_comm (List.countP Event.isFlush es)]

/-- Only marks are gated. -/
theorem of_marks (h : Gated hand n (marksOf es)) : Gated hand n es := by
  induction es generalizing n with
  | nil => trivial
  | cons ev es ih =>
    rw [marksOf_cons] at h
    cases ev with
    | wrote _ => exact ⟨trivial, ih h⟩
    | noted _ => exact ⟨trivial, ih h⟩
    | _ => exact ⟨h.1, ih h.2⟩

/-- At any moment of a gated history. -/
theorem allowed {pre post : List (Event κ)} {ev : Event κ}
    (h : Gated hand n (pre ++ ev :: post)) : ev.AllowedBy (hand (n + prompts pre)) :=
  (append.mp h).2.1

end Gated

theorem Standing.Asked.gated {s : Supplier κ σ} {e : Endpoint} {sql : String}
    {es : List (Event κ)} {hand : Nat → Option String} {n : Nat} (h : Asked s e sql es)
    (hn : hand n = some sql) : Gated hand n es := by
  cases h with
  | nothing _ => trivial
  | refused ha _ => exact ⟨⟨sql, hn, ha⟩, trivial⟩
  | served ha client ho hc =>
    have hexec : Gated hand n [.executed client sql] := ⟨⟨hn, ha⟩, trivial⟩
    rcases ho with rfl | rfl <;> rcases hc with rfl | rfl
    · exact hexec
    · exact ⟨hexec.1, trivial, trivial⟩
    · exact ⟨⟨sql, hn, ha⟩, hexec⟩
    · exact ⟨⟨sql, hn, ha⟩, hexec.1, trivial, trivial⟩

theorem prompts_of_requests {es : List (Event κ)} (h : ∀ ev ∈ es, ev.isRequest = true) :
    prompts es = 0 :=
  List.countP_eq_zero.mpr fun ev hev hf => by
    have hr := h ev hev
    cases ev <;> simp_all [Event.isFlush, Event.isRequest]

/-! ## Sessions are gated -/

namespace Session

open Act Outline Standing

variable (s : Supplier κ σ) (e : Endpoint)

/-- The text that a session handles behind a number of prompts. -/
def inHand : Session → Nat → Option String
  | once sql, _ => some sql
  | interactive _, 0 => none
  | interactive input, n + 1 => input.lines[n]?.bind Line.statement?

/-- All the texts that a session may handle. -/
def texts : Session → List String
  | once sql => [sql]
  | interactive input => input.lines.filterMap Line.statement?

theorem mem_texts_of_inHand {session : Session} {n : Nat} {sql : String}
    (h : session.inHand n = some sql) : sql ∈ session.texts := by
  cases session with
  | once text => simp [inHand] at h; simp [texts, h]
  | interactive input =>
    cases n with
    | zero => cases h
    | succ n =>
      obtain ⟨line, hl, hs⟩ := Option.bind_eq_some_iff.mp h
      exact List.mem_filterMap.mpr ⟨line, List.mem_of_getElem? hl, hs⟩

/-- Rounds are gated by the lines that are still to come. -/
theorem rounds_gated (m n : Nat) (lines : List (List UInt8)) (st : Standing κ σ)
    {hand : Nat → Option String} (h : ∀ k, hand (n + k + 1) = lines[k]?.bind Line.statement?) :
    Gated hand n (st.rounds s e m lines).marks := by
  induction m generalizing n lines st with
  | zero => trivial
  | succ m ih =>
    cases lines with
    | nil => exact ⟨trivial, trivial⟩
    | cons line rest =>
      have hline : hand (n + 1) = Line.statement? line := h 0
      refine ⟨trivial, Gated.append.mpr ⟨?_, ?_⟩⟩
      · rcases reply_cases s e line st with ⟨-, hr⟩ | ⟨sql, hs, -, hr⟩
        · rw [hr]; trivial
        · exact hr.gated (hline.trans hs)
      · rw [prompts_of_requests (reply_requests s e line st)]
        split
        · trivial
        · refine ih (n + 1) rest _ fun k => ?_
          rw [show n + 1 + k + 1 = n + (k + 1) + 1 by omega]
          exact h (k + 1)

theorem run_gated (session : Session) (desk : Desk κ σ) :
    Gated session.inHand 0 (session.run s e desk).events := by
  refine Gated.of_marks ?_
  show Gated _ 0 (session.run s e desk).outline.marks
  cases session with
  | once sql =>
    show Gated _ 0 (runOnce s e sql desk).outline.marks
    rw [runOnce_outline]
    exact (single_asked s e sql desk.standing).gated rfl
  | interactive input =>
    obtain ⟨m, hm⟩ := runInteractive_outline s e input desk
    show Gated _ 0 (runInteractive s e input desk).outline.marks
    rw [hm]
    refine Gated.append.mpr ⟨rounds_gated s e m 0 input.lines _ fun k => ?_, ?_⟩
    · rw [Nat.zero_add]; rfl
    · unfold dismiss
      split
      · trivial
      · exact ⟨trivial, trivial⟩

end Session

/-! ## A client by itself -/

namespace Execution

/-- Executes one text after another on a client. -/
def series (s : Supplier κ σ) (client : κ) : List String → σ → List (Event κ) × σ
  | [], state => ([], state)
  | sql :: rest, state =>
    let first := run s client sql state
    let more := series s client rest first.state
    (first.events ++ more.1, more.2)

/-- A rejected text does nothing to a client, and an admitted one is one request. -/
theorem run_requests (s : Supplier κ σ) (client : κ) (sql : String) (state : σ) :
    ((run s client sql state).events.filter Event.isRequest, (run s client sql state).state) =
      if Policy.classify sql = .admitted then
        ([.executed client sql], (s.execute client sql state).state)
      else ([], state) := by
  have hn (ns : List Note) : (Event.notes ns : List (Event κ)).filter Event.isRequest = [] := by
    simp [Event.notes, List.filter_eq_nil_iff, Event.isRequest]
  unfold run
  cases h : Policy.classify sql with
  | rejected reason => rfl
  | admitted =>
    dsimp only
    cases (s.execute client sql state).result <;> simp [List.filter_cons, Event.isRequest, hn]

/-- Of any texts, a client sees the admitted ones, as they are and in their order. -/
theorem series_eq (s : Supplier κ σ) (client : κ) (texts : List String) (state : σ) :
    let admitted := texts.filter fun sql => Policy.classify sql = .admitted
    (series s client texts state).1.filter Event.isRequest = admitted.map (.executed client) ∧
      (series s client texts state).2 =
        admitted.foldl (fun state sql => (s.execute client sql state).state) state := by
  induction texts generalizing state with
  | nil => exact ⟨rfl, rfl⟩
  | cons sql rest ih =>
    obtain ⟨he, hs⟩ := ih (run s client sql state).state
    have hrun := run_requests s client sql state
    dsimp only
    rw [series, List.filter_append, he, hs, List.filter_cons]
    split at hrun
    · rename_i h
      rw [(Prod.mk.inj hrun).1, (Prod.mk.inj hrun).2, if_pos (decide_eq_true h)]
      exact ⟨rfl, rfl⟩
    · rename_i h
      rw [(Prod.mk.inj hrun).1, (Prod.mk.inj hrun).2, if_neg (by simpa using h)]
      exact ⟨rfl, rfl⟩

end Execution

/-! ## Sessions in a row -/

theorem Event.AllowedBy.nothing {ev : Event κ} {text : Option String} (h : ev.AllowedBy text)
    (ht : ∀ sql, text = some sql → Policy.classify sql ≠ .admitted) : ev.AllowedBy none := by
  cases ev with
  | connected _ | refused _ =>
    obtain ⟨sql, hs, ha⟩ := h
    exact absurd ha (ht sql hs)
  | executed _ sql => exact absurd h.2 (ht sql h.1)
  | _ => trivial

/-- Without an admitted text nothing is asked at all: there is no client to close either. -/
theorem Tracks.requests_nil {es : List (Event κ)} {b : Option κ} (ht : Tracks none (marksOf es) b)
    (h : ∀ ev ∈ es, ev.AllowedBy none) : ∀ ev ∈ es, ev.isRequest = false := by
  have hopened : opened es = [] := List.filterMap_eq_nil_iff.mpr fun ev hev => by
    cases ev with
    | connected _ =>
      obtain ⟨_, hs, -⟩ := h _ hev
      cases hs
    | _ => rfl
  have hclosed : closed es = [] := by
    have := ht.opened_eq
    rw [hopened] at this
    exact (List.append_eq_nil_iff.mp this.symm).1
  intro ev hev
  cases ev with
  | connected _ | refused _ =>
    obtain ⟨_, hs, -⟩ := h _ hev
    cases hs
  | executed _ sql => cases (h _ hev).1
  | closed client => cases List.filterMap_eq_nil_iff.mp hclosed _ hev
  | _ => rfl

namespace Session

variable (s : Supplier κ σ) (e : Endpoint)

theorem allowed_of_mem {session : Session} {desk : Desk κ σ} {ev : Event κ}
    (h : ev ∈ (session.run s e desk).events) : ∃ n, ev.AllowedBy (session.inHand n) := by
  obtain ⟨pre, post, he⟩ := List.append_of_mem h
  exact ⟨_, (he ▸ run_gated s e session desk).allowed⟩

/-- Sessions in a row execute nothing but admitted texts, each being the text in hand, and connect
only with an admitted text in hand. If no text is admitted they make no request. The client of an
executor by itself sees the admitted texts among any texts, each once and as it is. -/
theorem runAll_gated (sessions : List (Session × Terminal)) (world : σ) :
    let begun := starts s e sessions world none
    let all := history (runAll s e sessions world none)
    (begun.map Prod.fst = sessions.map Prod.fst ∧
      runAll s e sessions world none = begun.map (fun b => b.1.run s e b.2)) ∧
    (∀ b ∈ begun, ∀ pre ev post, (b.1.run s e b.2).events = pre ++ ev :: post →
      ev.AllowedBy (b.1.inHand (prompts pre))) ∧
    (∀ client sql, .executed client sql ∈ all → Policy.classify sql = .admitted) ∧
    ((∀ session ∈ sessions, ∀ sql ∈ session.1.texts, Policy.classify sql ≠ .admitted) →
      ∀ ev ∈ all, ev.isRequest = false) ∧
    ∀ client texts state,
      let admitted := texts.filter fun sql => Policy.classify sql = .admitted
      (Execution.series s client texts state).1.filter Event.isRequest =
          admitted.map (.executed client) ∧
        (Execution.series s client texts state).2 =
          admitted.foldl (fun state sql => (s.execute client sql state).state) state := by
  intro begun all
  have heq := runAll_eq s e sessions world none
  have hall : all = history (begun.map fun b => b.1.run s e b.2) := congrArg history heq
  have hmem {ev : Event κ} (h : ev ∈ all) :
      ∃ b ∈ begun, ∃ n, ev.AllowedBy (b.1.inHand n) := by
    rw [hall] at h
    obtain ⟨stage, hstage, he⟩ := List.mem_flatMap.mp h
    obtain ⟨b, hb, rfl⟩ := List.mem_map.mp hstage
    exact ⟨b, hb, allowed_of_mem s e he⟩
  refine ⟨⟨starts_sessions s e sessions world none, heq⟩, fun b _ pre ev post he => ?_,
    fun client sql h => ?_, fun h => ?_, Execution.series_eq s⟩
  · have hg := (he ▸ run_gated s e b.1 b.2).allowed
    rwa [Nat.zero_add] at hg
  · obtain ⟨b, -, n, hb⟩ := hmem h
    exact hb.2
  · have ht := history_tracked s e (starts_held s e sessions world)
    refine (hall ▸ ht).requests_nil fun ev hev => ?_
    obtain ⟨b, hb, n, ha⟩ := hmem hev
    have hb' : b.1 ∈ sessions.map Prod.fst := by
      rw [← starts_sessions s e sessions world none]
      exact List.mem_map_of_mem hb
    obtain ⟨session, hs, hfst⟩ := List.mem_map.mp hb'
    exact ha.nothing fun sql hsql => h session hs sql (hfst ▸ mem_texts_of_inHand hsql)

end Session

end SqlGuard
