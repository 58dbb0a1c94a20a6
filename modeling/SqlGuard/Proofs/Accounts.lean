import SqlGuard.Proofs.Ledger

/-!
# The account of open clients

`paused` is a conversation stopped at a prompt, so that the desk can be looked
at there. The conversation goes on from it as if it had not stopped
(`converse_paused`), and flushes nothing but the prompt that it stopped at
(`paused_of_flushed`).

* `runAll_accounted`: over sessions in a row, what is open at every request, at
  every prompt and whenever a session returns.
-/
namespace SqlGuard

variable {κ σ α : Type}

/-- What comes before an element of `a ++ b` that is not in `a`. -/
theorem split_right {a b pre post : List α} {x : α} (h : a ++ b = pre ++ x :: post) (hx : x ∉ a) :
    ∃ pre', pre = a ++ pre' ∧ b = pre' ++ x :: post := by
  rcases List.append_eq_append_iff.mp h with ⟨c, h1, h2⟩ | ⟨c, h1, h2⟩
  · exact ⟨c, h1, h2⟩
  · cases c with
    | nil => exact ⟨[], by simpa using h1.symm, by simpa using h2.symm⟩
    | cons y c =>
      simp only [List.cons_append, List.cons.injEq] at h2
      exact absurd (by simp [h1, ← h2.1]) hx

theorem split_left {a b pre post : List α} {x : α} (h : a ++ b = pre ++ x :: post) (hx : x ∉ b) :
    ∃ post', a = pre ++ x :: post' := by
  rcases List.append_eq_append_iff.mp h with ⟨c, h1, h2⟩ | ⟨c, h1, h2⟩
  · exact absurd (by simp [h2]) hx
  · cases c with
    | nil => exact absurd (by simp [← show x :: post = b from h2]) hx
    | cons y c =>
      simp only [List.cons_append, List.cons.injEq] at h2
      exact ⟨c, by rw [h1, h2.1]⟩

namespace Session

open Act Outline Standing

variable (s : Supplier κ σ) (e : Endpoint)

/-! ## At a prompt -/

/-- A conversation stopped at a prompt that is written but not yet flushed, behind `n` others.
It gives the lines that are still to come, unless the conversation ends before. -/
def paused (ending : Ending) : Nat → List (List UInt8) → Act κ σ (Option (List (List UInt8)))
  | 0, lines => do
    write Screen.prompt
    done (some lines)
  | _ + 1, [] => do
    showPrompt
    endInput ending
    done none
  | n + 1, line :: rest => do
    match ← round s e line with
    | .stop => done none
    | .goOn => paused ending n rest

/-- What follows the flush of a prompt. -/
def proceed (ending : Ending) : List (List UInt8) → Act κ σ Unit
  | [] => endInput ending
  | line :: rest => do
    match ← handleLine s e line with
    | .stop => done ()
    | .goOn => converse s e ending rest

/-- Goes on with a paused conversation. -/
def resume (ending : Ending) : Option (List (List UInt8)) → Act κ σ Unit
  | none => done ()
  | some lines => do
    flush
    proceed s e ending lines

theorem converse_eq (ending : Ending) (lines : List (List UInt8)) :
    converse s e ending lines = showPrompt >>= fun _ => proceed s e ending lines := by
  cases lines <;> rw [converse] <;> rfl

theorem converse_paused (ending : Ending) (n : Nat) (lines : List (List UInt8)) :
    converse s e ending lines = paused s e ending n lines >>= resume s e ending := by
  induction n generalizing lines with
  | zero => simp only [converse_eq, showPrompt, paused, resume, bind_bind, done_bind]
  | succ n ih =>
    cases lines with
    | nil => simp only [converse_eq, proceed, paused, bind_bind, done_bind, resume, bind_done]
    | cons line rest =>
      rw [converse_cons, paused, bind_bind]
      congr 1
      funext next
      cases next with
      | stop => rfl
      | goOn => exact ih rest

theorem paused_keeps (ending : Ending) (n : Nat) (lines : List (List UInt8)) :
    Keeps (paused s e ending n lines) := by
  induction n generalizing lines with
  | zero => exact ((Still.write _).bind fun _ => Still.done _).keeps
  | succ n ih =>
    cases lines with
    | nil =>
      have h := (endInput_still ending (κ := κ) (σ := σ)).bind fun _ =>
        Still.done (none : Option (List (List UInt8)))
      exact showPrompt_keeps.bind fun _ => h.keeps
    | cons line rest =>
      refine (round_keeps s e line).bind fun next => ?_
      cases next with
      | stop => exact (Still.done _).keeps
      | goOn => exact ih rest

theorem flushed_not_mem {es : List (Event κ)} (h : ∀ ev ∈ marksOf es, ev.isRequest = true) :
    .flushed ∉ es := fun hm =>
  absurd (h .flushed (List.mem_filter.mpr ⟨hm, rfl⟩)) (by simp [Event.isRequest])

theorem flushed_not_mem_of_still {act : Act κ σ α} (h : Still act) (desk : Desk κ σ) :
    .flushed ∉ (act desk).events := flushed_not_mem (by rw [h.marks]; simp)

theorem handleLine_flushed (line : List UInt8) (desk : Desk κ σ) :
    .flushed ∉ (handleLine s e line desk).events := by
  refine flushed_not_mem ?_
  show ∀ ev ∈ (handleLine s e line desk).outline.marks, _
  rw [handleLine_outline]
  exact reply_requests s e line desk.standing

/-- Showing a prompt is writing it and flushing it, or it fails and nothing is flushed. -/
theorem showPrompt_flushed (desk : Desk κ σ) :
    (∃ fault, (showPrompt desk).result = .error fault ∧ .flushed ∉ (showPrompt desk).events) ∨
    ((showPrompt desk).result = .ok () ∧ (write Screen.prompt desk).result = .ok () ∧
      (showPrompt desk).events = (write Screen.prompt desk).events ++ [.flushed]) := by
  unfold showPrompt
  have hw := flushed_not_mem_of_still (Still.write (κ := κ) (σ := σ) Screen.prompt) desk
  cases hr : (write (κ := κ) (σ := σ) Screen.prompt desk).result with
  | error fault =>
    rw [bind_error hr]
    exact .inl ⟨fault, rfl, hw⟩
  | ok _ =>
    rw [bind_ok hr, flush]
    split
    · exact .inr ⟨rfl, rfl, rfl⟩
    · exact .inl ⟨_, rfl, by simpa [Stage.after] using hw⟩

/-- A flush behind a prompt is that of the prompt, or comes of what follows it. -/
theorem flushed_behind_prompt {act : Act κ σ Unit} {desk : Desk κ σ} {pre post : List (Event κ)}
    (h : ((showPrompt >>= fun _ => act) desk).events = pre ++ .flushed :: post) :
    ((write Screen.prompt desk).result = .ok () ∧ (write Screen.prompt desk).events = pre) ∨
    ∃ pre', (showPrompt desk).result = .ok () ∧ pre = (showPrompt desk).events ++ pre' ∧
      (act (showPrompt desk).desk).events = pre' ++ .flushed :: post := by
  rcases showPrompt_flushed desk with ⟨fault, hr, hf⟩ | ⟨hr, hw, he⟩
  · rw [bind_error hr] at h
    dsimp only at h
    exact absurd (by simp [h]) hf
  · have hm := flushed_not_mem_of_still (Still.write (κ := κ) (σ := σ) Screen.prompt) desk
    rw [bind_ok hr] at h
    dsimp only [Stage.after] at h
    rw [he, List.append_assoc] at h
    obtain ⟨pre', rfl, hp⟩ := split_right h hm
    cases pre' with
    | nil => exact .inl ⟨hw, by simp⟩
    | cons ev pre' =>
      simp only [List.cons_append, List.cons.injEq] at hp
      obtain ⟨rfl, hp⟩ := hp
      exact .inr ⟨pre', hr, by rw [he]; simp, hp⟩

/-- Whenever a prompt is flushed, the conversation was paused before it. -/
theorem paused_of_flushed (ending : Ending) (lines : List (List UInt8)) {desk : Desk κ σ}
    {pre post : List (Event κ)}
    (h : (converse s e ending lines desk).events = pre ++ .flushed :: post) :
    ∃ n rest, (paused s e ending n lines desk).result = .ok (some rest) ∧
      (paused s e ending n lines desk).events = pre := by
  induction lines generalizing desk pre with
  | nil =>
    rw [converse_eq] at h
    rcases flushed_behind_prompt h with ⟨hw, hp⟩ | ⟨pre', -, -, he⟩
    · exact ⟨0, [], by rw [paused, bind_ok hw]; exact ⟨rfl, (List.append_nil _).trans hp⟩⟩
    · have hm := flushed_not_mem_of_still (endInput_still ending) (showPrompt desk).desk
      rw [proceed] at he
      exact absurd (by rw [he]; simp) hm
  | cons line rest ih =>
    rw [converse_eq] at h
    rcases flushed_behind_prompt h with ⟨hw, hp⟩ | ⟨pre', hr, rfl, he⟩
    · exact ⟨0, _, by rw [paused, bind_ok hw]; exact ⟨rfl, (List.append_nil _).trans hp⟩⟩
    -- the line asks for no flush, so the prompt belongs to a later line
    have hl := handleLine_flushed s e line (showPrompt desk).desk
    cases ht : (handleLine s e line (showPrompt desk).desk).result with
    | error fault =>
      rw [proceed, bind_error ht] at he
      exact absurd (by rw [he]; simp) hl
    | ok next =>
      rw [proceed, bind_ok ht] at he
      obtain ⟨pre'', rfl, hq⟩ := split_right he hl
      cases next with
      | stop => exact absurd hq (by simp [done])
      | goOn =>
        obtain ⟨n, lines, hn, hp⟩ := ih hq
        refine ⟨n + 1, lines, ?_⟩
        rw [paused, round, bind_bind, bind_ok hr, bind_ok ht]
        exact ⟨hn, congrArg (fun es => _ ++ (_ ++ es)) hp⟩

/-- A session stopped at a prompt that is written but not yet flushed, behind `n` others. -/
def atPrompt (input : Input) (n : Nat) : Act κ σ (Option (List (List UInt8))) := do
  say (Screen.banner e)
  paused s e input.ending n input.lines

theorem runInteractive_atPrompt (input : Input) (n : Nat) :
    runInteractive s e input =
      (atPrompt s e input n >>= resume s e input.ending).andThen (disconnect s) := by
  unfold runInteractive atPrompt
  rw [bind_bind, converse_paused s e input.ending n]

theorem atPrompt_keeps (input : Input) (n : Nat) : Keeps (atPrompt s e input n) :=
  (Still.say _).keeps.bind fun _ => paused_keeps s e input.ending n input.lines

theorem atPrompt_of_flushed (input : Input) {desk : Desk κ σ} {pre post : List (Event κ)}
    (h : (runInteractive s e input desk).events = pre ++ .flushed :: post) :
    ∃ n rest, (atPrompt s e input n desk).result = .ok (some rest) ∧
      (atPrompt s e input n desk).events = pre := by
  have hd : ∀ desk : Desk κ σ, .flushed ∉ (disconnect s desk).events := fun desk => by
    refine flushed_not_mem ?_
    show ∀ ev ∈ (disconnect s desk).outline.marks, _
    rw [(disconnect_does s).outline]
    exact dismiss_requests s desk.standing
  have hb := flushed_not_mem_of_still (Still.say (κ := κ) (σ := σ) (Screen.banner e)) desk
  obtain ⟨post', h⟩ := split_left h (hd _)
  cases hr : (say (κ := κ) (σ := σ) (Screen.banner e) desk).result with
  | error fault =>
    rw [bind_error hr] at h
    dsimp only at h
    exact absurd (by rw [h]; simp) hb
  | ok _ =>
    rw [bind_ok hr] at h
    obtain ⟨pre', rfl, hc⟩ := split_right h hb
    obtain ⟨n, rest, hn, hp⟩ := paused_of_flushed s e input.ending input.lines hc
    refine ⟨n, rest, ?_⟩
    rw [atPrompt, bind_ok hr]
    exact ⟨hn, congrArg (_ ++ ·) hp⟩

/-! ## Sessions in a row -/

/-- A single statement makes no request once it has shown anything. -/
theorem runOnce_wrote (sql : String) {desk : Desk κ σ} {pre post : List (Event κ)}
    {octets : List UInt8} (he : (runOnce s e sql desk).events = pre ++ .wrote octets :: post) :
    marksOf post = [] := by
  have hd := perform_does s e sql
  have hs (outcome : String × Except Fault Unit) :=
    (Still.say (κ := κ) (σ := σ) outcome.1).bind fun _ => conclude_still outcome.2
  rw [runOnce_eq, bind_ok (hd.result desk)] at he
  obtain ⟨pre', rfl, hw⟩ := split_right he (hd.silent desk octets)
  have hm := (hs (desk.standing.single s e sql).1).marks (perform s e sql desk).desk
  rw [hw, marksOf_append, List.append_eq_nil_iff] at hm
  exact hm.2

/-- What holds of a session that begins at a desk, behind what happened in other sessions. -/
structure Accounted (past : List (Event κ)) (session : Session) (desk : Desk κ σ) : Prop where
  /-- When the session returns, no client is kept open. -/
  released : (session.run s e desk).desk.held = none
  /-- Every client opened until then is closed, in this order and once each. -/
  settled : closed (past ++ (session.run s e desk).events) =
    opened (past ++ (session.run s e desk).events)
  /-- At every prompt, before it is flushed or fails to be, the open clients are counted by the
  client that the desk holds. The session goes on from there, and flushes nowhere else. -/
  prompted : ∀ input, session = .interactive input →
    (∀ n rest, (atPrompt s e input n desk).result = .ok (some rest) →
      let events := past ++ (atPrompt s e input n desk).events
      events.countP Event.isConnected = events.countP Event.isClosed +
        if (atPrompt s e input n desk).desk.held.isSome then 1 else 0) ∧
    (∀ n, session.run s e = (atPrompt s e input n >>= resume s e input.ending).andThen
      (disconnect s)) ∧
    ∀ pre post, (session.run s e desk).events = pre ++ .flushed :: post →
      ∃ n rest, (atPrompt s e input n desk).result = .ok (some rest) ∧
        (atPrompt s e input n desk).events = pre
  /-- A single statement's client is closed, and nothing more requested, when anything is shown. -/
  shown : ∀ sql pre octets post, session = .once sql →
    (session.run s e desk).events = pre ++ .wrote octets :: post →
    closed (past ++ pre) = opened (past ++ pre) ∧ ∀ ev ∈ post, ev.isRequest = false

theorem accounted {past : List (Event κ)} (hp : Tracks none (marksOf past) none)
    (session : Session) {desk : Desk κ σ} (h : desk.held = none) :
    Accounted s e past session desk where
  released := run_held s e session h
  settled := by
    have ht := hp.append (run_tracked s e session h)
    rw [← marksOf_append] at ht
    simpa using ht.opened_eq.symm
  prompted := by
    rintro input rfl
    refine ⟨fun n rest _ => ?_, runInteractive_atPrompt s e input, fun pre post he =>
      atPrompt_of_flushed s e input he⟩
    have hk : Tracks desk.held (marksOf (atPrompt s e input n desk).events)
      (atPrompt s e input n desk).desk.held := atPrompt_keeps s e input n desk
    rw [h] at hk
    have ht := hp.append hk
    rw [← marksOf_append] at ht
    dsimp only
    rw [← length_opened, ← length_closed, ht.opened_eq, List.length_append]
    cases (atPrompt s e input n desk).desk.held <;> rfl
  shown := by
    rintro sql pre octets post rfl he
    have hm := runOnce_wrote s e sql he
    have ht := hp.append (run_tracked s e (.once sql) h)
    rw [← marksOf_append, he, ← List.append_assoc, marksOf_append] at ht
    have hw : marksOf (.wrote octets :: post) = [] := hm
    rw [hw, List.append_nil] at ht
    refine ⟨by simpa using ht.opened_eq.symm, fun ev hev => ?_⟩
    cases hr : ev.isRequest with
    | false => rfl
    | true =>
      have : ev ∈ marksOf post := List.mem_filter.mpr ⟨hev, Event.isMark_of_isRequest hr⟩
      rw [hm] at this
      cases this

/-- Sessions in a row keep one ledger. Each begins with no client open and is accounted for; at no
time is more than one client open; and a statement runs on the open client only. -/
theorem runAll_accounted (sessions : List (Session × Terminal)) (world : σ) :
    let begun := starts s e sessions world none
    let all := history (runAll s e sessions world none)
    (begun.map Prod.fst = sessions.map Prod.fst ∧
      runAll s e sessions world none = begun.map (fun b => b.1.run s e b.2)) ∧
    (∀ before b after, begun = before ++ b :: after →
      Accounted s e (history (before.map fun b => b.1.run s e b.2)) b.1 b.2) ∧
    (∀ pre post, all = pre ++ post →
      ∃ client : Option κ, opened pre = closed pre ++ client.toList) ∧
    ∀ pre client sql post, all = pre ++ .executed client sql :: post →
      opened pre = closed pre ++ [client] := by
  intro begun all
  have hall : all = history (begun.map fun b => b.1.run s e b.2) :=
    congrArg history (runAll_eq s e sessions world none)
  have hheld := starts_held s e sessions world
  have ht := history_tracked s e hheld
  refine ⟨⟨starts_sessions s e sessions world none, runAll_eq s e sessions world none⟩,
    fun before b after hb => ?_, fun pre post he => ?_, fun pre client sql post he => ?_⟩
  · have hbefore : ∀ b' ∈ before, b'.2.held = none := fun b' hm => hheld b' (by
      show b' ∈ begun
      rw [hb]
      simp [hm])
    exact accounted s e (history_tracked s e hbefore) b.1 (hheld b (by
      show b ∈ begun
      rw [hb]
      simp))
  · rw [← hall, he, marksOf_append] at ht
    obtain ⟨client, h1, -⟩ := ht.split
    exact ⟨client, h1.opened_eq⟩
  · rw [← hall, marksOf_split he rfl] at ht
    obtain ⟨_, h1, h2⟩ := ht.split
    cases h2
    exact h1.opened_eq

end Session

end SqlGuard
