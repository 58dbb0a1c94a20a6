import SqlGuard.Proofs.Accounts
import SqlGuard.Proofs.Cuts
import SqlGuard.Proofs.Modes

/-!
# Sessions at a terminal that fails

A terminal that fails only ends a session sooner (`run_kept`): what happens at
it is what the terminal keeps of the session at a terminal that never fails, and
then the client that is still open is closed.

* `run_truncated`: what is shown, the result, and the requests, for a terminal
  with a limit on octets, one with a limit on flushes, and any terminal.
-/
namespace SqlGuard

variable {κ σ : Type}

namespace Event

/-- A request other than to close a client. -/
def isCall : Event κ → Bool
  | connected _ | refused _ | executed .. => true
  | _ => false

/-- The event may belong to closing a client. -/
def Closing : Event κ → Prop
  | closed _ | noted _ => True
  | _ => False

theorem Closing.silent {ev : Event κ} (h : ev.Closing) :
    ev.octets = [] ∧ ev.isFlush = false ∧ ev.isCall = false := by
  cases ev with
  | closed client => exact ⟨rfl, rfl, rfl⟩
  | noted n => exact ⟨rfl, rfl, rfl⟩
  | _ => exact h.elim

/-- The prompt is written. -/
def prompt : Event κ := wrote (Text.Utf8.encodeString Screen.prompt)

end Event

/-- The attempts to connect, and the statements executed. -/
def calls (events : List (Event κ)) : List (Event κ) := events.filter Event.isCall

section Closing

variable {es : List (Event κ)} (h : ∀ ev ∈ es, ev.Closing)

include h

theorem output_closing : outputOf es = [] :=
  List.flatMap_eq_nil_iff.mpr fun ev hev => (h ev hev).silent.1

theorem prompts_closing : prompts es = 0 :=
  List.countP_eq_zero.mpr fun ev hev => by simp [(h ev hev).silent.2.1]

theorem calls_closing : calls es = [] :=
  List.filter_eq_nil_iff.mpr fun ev hev => by simp [(h ev hev).silent.2.2]

/-- Every terminal endures the closing of a client. -/
theorem endures_closing (t : Terminal) : t.Endures es :=
  ⟨fun _ _ => by simp [output_closing h], fun _ _ => by simp [prompts_closing h]⟩

end Closing

namespace Session

open Act Outline Standing

variable (s : Supplier κ σ) (e : Endpoint)

/-! ## What is left of a session -/

theorem disconnect_closing (desk : Desk κ σ) :
    ∀ ev ∈ (disconnect s desk).events, ev.Closing := by
  obtain ⟨world, held, t⟩ := desk
  cases held with
  | none => exact fun ev h => absurd h List.not_mem_nil
  | some client =>
    intro ev h
    change ev ∈ (release s target client ⟨world, none, t⟩).events at h
    rcases List.mem_cons.mp h with rfl | h
    · trivial
    rcases List.mem_append.mp h with h | h
    · obtain ⟨n, -, rfl⟩ := List.mem_map.mp h
      trivial
    · split at h
      · exact absurd h List.not_mem_nil
      · rw [List.mem_singleton.mp h]
        trivial

/-- At a terminal a session does what the terminal keeps of it, and closes its client. It ends as it
does at a terminal that never fails, or with the fault of the terminal. -/
theorem run_kept (session : Session) (st : Standing κ σ) (t : Terminal) :
    let full := session.run s e (st.desk .unlimited)
    let short := session.run s e (st.desk t)
    ∃ closing, short.events = t.kept full.events ++ closing ∧ (∀ ev ∈ closing, ev.Closing) ∧
      (t.Endures full.events → closing = [] ∧ short.result = full.result) ∧
      (¬t.Endures full.events → short.result = .error (.io t.fault)) := by
  intro full short
  cases session with
  | once sql =>
    have hcuts := runOnce_cuts s e sql
    by_cases he : t.Endures full.events
    · have hshort : short = _ := hcuts.endured st t he
      refine ⟨[], ?_, fun ev h => absurd h List.not_mem_nil, fun _ => ⟨rfl, ?_⟩, absurd he⟩
      · rw [hshort, Terminal.kept_of_endures he, List.append_nil]
        rfl
      · rw [hshort]
        rfl
    · obtain ⟨hes, hresult⟩ := hcuts.failed st t he
      refine ⟨[], ?_, fun ev h => absurd h List.not_mem_nil, fun h => absurd h he, fun _ => hresult⟩
      rw [List.append_nil]
      exact hes
  | interactive input =>
    -- closing the client shows nothing, so it is the rest of the session that the terminal cuts
    let whole := body s e input (st.desk .unlimited)
    have hcuts := body_cuts s e input
    have hfull : full.events = whole.events ++ (disconnect s whole.desk).events := rfl
    have hclosing := disconnect_closing s whole.desk
    have hendures : t.Endures full.events ↔ t.Endures whole.events := by
      rw [hfull, Terminal.endures_append]
      exact and_iff_left (endures_closing hclosing _)
    by_cases he : t.Endures whole.events
    · have hbody : body s e input (st.desk t) = _ := hcuts.endured st t he
      have hdesk : whole.desk = whole.desk.standing.desk .unlimited :=
        (Desk.standing_desk _ (hcuts.terminal st)).symm
      have hlast := (disconnect_cuts s).endured whole.desk.standing (t.behind whole.events)
        (endures_closing (hdesk ▸ hclosing) _)
      have hshort : short.events = full.events ∧ short.result = full.result := by
        show (body s e input (st.desk t)).events ++
            (disconnect s (body s e input (st.desk t)).desk).events = _ ∧
          (body s e input (st.desk t)).result = _
        rw [hbody, hfull]
        refine ⟨congrArg (whole.events ++ ·) ((congrArg Stage.events hlast).trans ?_), rfl⟩
        exact congrArg (fun desk => (disconnect s desk).events) hdesk.symm
      refine ⟨[], ?_, fun ev h => absurd h List.not_mem_nil, fun _ => ⟨rfl, hshort.2⟩,
        absurd (hendures.mpr he)⟩
      rw [hshort.1, Terminal.kept_of_endures (hendures.mpr he), List.append_nil]
    · obtain ⟨hes, hresult⟩ := hcuts.failed st t he
      refine ⟨_, ?_, disconnect_closing s (body s e input (st.desk t)).desk,
        fun h => absurd (hendures.mp h) he, fun _ => hresult⟩
      rw [hfull, Terminal.kept_append_of_not he]
      exact congrArg (· ++ (disconnect s (body s e input (st.desk t)).desk).events) hes

/-! ## The flushes of a session -/

theorem prompts_marksOf (es : List (Event κ)) : prompts (marksOf es) = prompts es := by
  unfold prompts marksOf
  rw [List.countP_filter]
  congr 1
  funext ev
  cases ev <;> rfl

/-- Every round flushes one prompt. -/
theorem rounds_prompts (n : Nat) (lines : List (List UInt8)) (st : Standing κ σ) :
    prompts (st.rounds s e n lines).marks = min n (promptCount lines) := by
  induction n generalizing lines st with
  | zero => exact (Nat.zero_min _).symm
  | succ n ih =>
    cases lines with
    | nil =>
      show 1 = min (n + 1) 1
      omega
    | cons line rest =>
      have hreply := prompts_of_requests (reply_requests s e line st)
      have hrest : prompts (((st.reply s e line).2.next
          (if Line.leaves line then still else rounds s e n rest)).marks) =
          if Line.leaves line then 0 else min n (promptCount rest) := by
        show prompts (_ ++ _) = _
        rw [prompts_append, hreply, Nat.zero_add]
        split
        · rfl
        · exact ih rest _
      show prompts ([.flushed] ++ _) = _
      rw [prompts_append, hrest, promptCount_cons]
      show 1 + _ = _
      split <;> omega

theorem promptCount_le (lines : List (List UInt8)) : promptCount lines ≤ lines.length + 1 := by
  induction lines with
  | nil => exact Nat.le_refl 1
  | cons line rest ih =>
    rw [promptCount_cons, List.length_cons]
    split <;> omega

/-- Closing the client in the end flushes nothing. -/
theorem prompts_dismissed {stage : Stage κ σ Unit} {n : Nat} {lines : List (List UInt8)}
    {st : Standing κ σ} (h : stage.outline = (st.rounds s e n lines).next (dismiss s)) :
    prompts stage.events = min n (promptCount lines) := by
  rw [← prompts_marksOf]
  show prompts stage.outline.marks = _
  rw [h]
  show prompts (_ ++ _) = _
  rw [prompts_append, rounds_prompts, prompts_of_requests (dismiss_requests s _), Nat.add_zero]

theorem runInteractive_flushes (input : Input) (st : Standing κ σ) :
    prompts (runInteractive s e input (st.desk .unlimited)).events = promptCount input.lines := by
  have ht : (st.desk .unlimited).terminal = .unlimited := rfl
  rw [prompts_dismissed s e (runInteractive_unlimited s e input ht).1]
  have := promptCount_le input.lines
  omega

theorem round_flushes (line : List UInt8) {desk : Desk κ σ} (ht : desk.terminal = .unlimited) :
    prompts (round s e line desk).events = 1 := by
  rw [← prompts_marksOf]
  show prompts (round s e line desk).outline.marks = 1
  rw [(round_plays s e line).outline desk ht]
  show prompts ([.flushed] ++ _) = 1
  rw [prompts_append, prompts_of_requests (reply_requests s e line _)]
  rfl

/-- The flush behind `n` prompts of a conversation comes right behind its prompt. What is shown
until then is what is shown if the input fails behind `n` lines. -/
theorem converse_flush (ending : Ending) (detail : String) (n : Nat) (lines : List (List UInt8))
    (hn : n < promptCount lines) (desk : Desk κ σ) (ht : desk.terminal = .unlimited) :
    ∃ before post,
      let pre := before ++ [.prompt]
      (converse s e ending lines desk).events = pre ++ .flushed :: post ∧ prompts pre = n ∧
        outputOf pre = screen s e (.failed detail) (lines.take n) desk.standing := by
  induction n generalizing lines desk with
  | zero =>
    have hp := showPrompt_plays (κ := κ) (σ := σ)
    rw [converse_eq, bind_ok (hp.result desk ht), Stage.after]
    obtain ⟨world, held, t⟩ := desk
    cases ht
    refine ⟨[], _, rfl, rfl, ?_⟩
    rw [List.take_zero]
    rfl
  | succ n ih =>
    cases lines with
    | nil => exact absurd hn (by simp [promptCount, handled])
    | cons line rest =>
      rw [promptCount_cons] at hn
      cases hv : Line.leaves line with
      | true =>
        rw [hv, if_pos rfl] at hn
        omega
      | false =>
        rw [hv, if_neg (by simp)] at hn
        -- the first round flushes one prompt, and the others are behind it
        have hp := round_plays s e line
        have hr := hp.result desk ht
        obtain ⟨before, post, hes, hprompts, hout⟩ := ih rest (by omega) _ (hp.terminal desk ht)
        refine ⟨(round s e line desk).events ++ before, post, ?_, ?_, ?_⟩
        · rw [converse_cons, bind_ok hr, nextOf, hv]
          show (round s e line desk).events ++ (converse s e ending rest _).events = _
          rw [hes]
          simp
        · rw [List.append_assoc, prompts_append, round_flushes s e line ht, hprompts, Nat.add_comm]
        · rw [List.append_assoc, outputOf_append, hout, hp.output desk ht, hp.standing ht,
            List.take_succ_cons, screen, hv]
          rfl

/-- A session at the prompt begins with its banner, and ends with closing its client. -/
theorem runInteractive_events (input : Input) (st : Standing κ σ) :
    ∃ (banner : Event κ) (closing : List (Event κ)),
      (runInteractive s e input (st.desk .unlimited)).events = [banner] ++
        (converse s e input.ending input.lines (st.desk .unlimited)).events ++ closing ∧
      outputOf [banner] = octetsOf [Screen.banner e] ∧ prompts [banner] = 0 := by
  obtain ⟨octets, hoctets⟩ : ∃ octets, octets = Text.Utf8.encodeString (Screen.banner e ++ "\n") :=
    ⟨_, rfl⟩
  have hsay : say (Screen.banner e) (st.desk .unlimited) =
      ⟨[.wrote octets], .ok (), st.desk .unlimited⟩ := hoctets ▸ rfl
  refine ⟨.wrote octets, (disconnect s (body s e input (st.desk .unlimited)).desk).events, ?_, ?_,
    rfl⟩
  · show (body s e input (st.desk .unlimited)).events ++ _ = _
    rw [body, bind_ok (congrArg Stage.result hsay), hsay]
    rfl
  · simp [outputOf, octetsOf, Event.octets, hoctets]

/-- The flush behind `n` prompts of a session comes right behind its prompt. -/
theorem runInteractive_flush (input : Input) (st : Standing κ σ) (detail : String) (n : Nat)
    (hn : n < promptCount input.lines) :
    ∃ before post,
      let pre := before ++ [.prompt]
      (runInteractive s e input (st.desk .unlimited)).events = pre ++ .flushed :: post ∧
        prompts pre = n ∧ outputOf pre =
          octetsOf [Screen.banner e] ++ screen s e (.failed detail) (input.lines.take n) st := by
  obtain ⟨banner, closing, hes, hshown, hsilent⟩ := runInteractive_events s e input st
  obtain ⟨before, post, hround, hprompts, hout⟩ :=
    converse_flush s e input.ending detail n input.lines hn (st.desk .unlimited) rfl
  refine ⟨[banner] ++ before, post ++ closing, ?_, ?_, ?_⟩
  · rw [hes, hround]
    simp only [List.append_assoc, List.cons_append]
  · rw [List.append_assoc, prompts_append, hsilent, hprompts, Nat.zero_add]
  · rw [List.append_assoc, outputOf_append, hshown, hout, Standing.standing_desk]

/-- What is left of a session at a terminal that stops at a prompt: just the prompts and lines
before it, their requests, and the closing of the client. -/
structure Stopped (input : Input) (st : Standing κ σ) (m : Nat) (fault : String)
    (full short : Stage κ σ Unit) : Prop where
  result : short.result = .error (.io fault)
  /-- What is shown ends with a prompt, where `m` others have been flushed. -/
  prompt : ∃ before post, let pre := before ++ [.prompt]
    full.events = pre ++ .flushed :: post ∧ prompts pre = m ∧ outputOf short.events = outputOf pre
  /-- It is what the first `m` lines show. -/
  shown : outputOf short.events = octetsOf [Screen.banner e] ++
    screen s e (.failed fault) (input.lines.take m) st
  /-- And the requests are what these lines ask. -/
  asked : requestsOf short.events =
    ((st.answers s e (handledTexts (input.lines.take m))).next (dismiss s)).marks

/-- A limit on flushes stops a session behind so many lines. -/
theorem runInteractive_stopped (input : Input) (st : Standing κ σ) (fault : String) {m : Nat}
    (hm : m < promptCount input.lines) :
    Stopped s e input st m fault (runInteractive s e input (st.desk .unlimited))
      (runInteractive s e input (st.desk ⟨none, some m, fault⟩)) := by
  let full := runInteractive s e input (st.desk .unlimited)
  let t : Terminal := ⟨none, some m, fault⟩
  let short := runInteractive s e input (st.desk t)
  obtain ⟨before, post, hes, hprompts, hout⟩ := runInteractive_flush s e input st fault m hm
  obtain ⟨closing, hshort, hclosing, -, hresult⟩ := run_kept s e (.interactive input) st t
  have hkept : t.kept full.events = before ++ [.prompt] := by
    have hstop := Terminal.kept_flush fault (before ++ [.prompt]) post
    rw [hprompts] at hstop
    exact (congrArg t.kept hes).trans hstop
  have hleft : short.events = before ++ [.prompt] ++ closing :=
    hshort.trans (congrArg (· ++ closing) hkept)
  have hshown : outputOf short.events = outputOf (before ++ [.prompt]) := by
    rw [hleft, outputOf_append, output_closing hclosing, List.append_nil]
  have hflushed : prompts short.events = m := by
    rw [hleft, prompts_append, prompts_closing hclosing, hprompts, Nat.add_zero]
  have hfails : ¬t.Endures full.events := fun h => by
    have hfit := (Terminal.endures_flushes m fault _).mp h
    rw [runInteractive_flushes s e input st] at hfit
    omega
  -- the session has come as many rounds far as it has flushed prompts
  obtain ⟨n, hn⟩ := runInteractive_outline s e input (st.desk t)
  have hrounds : n = m := by
    have hdone : prompts short.events = min n (promptCount input.lines) := prompts_dismissed s e hn
    omega
  subst hrounds
  exact ⟨hresult hfails, ⟨before, post, hes, hprompts, hshown⟩, hshown.trans hout,
    requests_of_rounds s e hn⟩

/-! ## Every session -/

theorem prompts_runOnce (sql : String) (desk : Desk κ σ) :
    prompts (runOnce s e sql desk).events = 0 := by
  rw [← prompts_marksOf]
  show prompts (runOnce s e sql desk).outline.marks = 0
  rw [runOnce_outline]
  exact prompts_of_requests (single_asked s e sql desk.standing).requests

theorem run_stopped (session : Session) (world : σ) (fault : String) {m : Nat}
    (hm : m < prompts (session.run s e ⟨world, none, .unlimited⟩).events) :
    ∃ input, session = .interactive input ∧
      Stopped s e input ⟨world, none⟩ m fault (session.run s e ⟨world, none, .unlimited⟩)
        (session.run s e ⟨world, none, ⟨none, some m, fault⟩⟩) := by
  let st : Standing κ σ := ⟨world, none⟩
  cases session with
  | once sql =>
    have := prompts_runOnce s e sql (st.desk .unlimited)
    change m < prompts (runOnce s e sql (st.desk .unlimited)).events at hm
    omega
  | interactive input =>
    have hm' : m < promptCount input.lines := runInteractive_flushes s e input st ▸ hm
    exact ⟨input, rfl, runInteractive_stopped s e input st fault hm'⟩

/-- At a terminal for `n` octets a session shows the first `n` octets of what it shows at one that
never fails, and has the same result if these are all of them. At a terminal for `m` flushes it goes
on until the prompt behind the first `m` lines. At every terminal its calls are the first ones of
those it makes at one that never fails, a single statement makes the same requests, and every client
is closed. -/
theorem run_truncated (session : Session) (world : σ) :
    let stage (t : Terminal) := session.run s e ⟨world, none, t⟩
    let full := stage .unlimited
    (∀ n fault, let short := stage ⟨some n, none, fault⟩
      outputOf short.events = (outputOf full.events).take n ∧
        short.result =
          if n < (outputOf full.events).length then .error (.io fault) else full.result) ∧
    (∀ m fault, let short := stage ⟨none, some m, fault⟩
      if m < prompts full.events then
        ∃ input, session = .interactive input ∧ Stopped s e input ⟨world, none⟩ m fault full short
      else short.events = full.events ∧ short.result = full.result) ∧
    ∀ t, let short := stage t
      outputOf short.events <+: outputOf full.events ∧ calls short.events <+: calls full.events ∧
        (∀ sql, session = .once sql → requestsOf short.events = requestsOf full.events) ∧
        closed short.events = opened short.events ∧ short.desk.held = none := by
  intro stage full
  have hkept (t : Terminal) : ∃ closing, (stage t).events = t.kept full.events ++ closing ∧
      (∀ ev ∈ closing, ev.Closing) ∧
      (t.Endures full.events → closing = [] ∧ (stage t).result = full.result) ∧
      (¬t.Endures full.events → (stage t).result = .error (.io t.fault)) :=
    run_kept s e session ⟨world, none⟩ t
  refine ⟨fun n fault => ?_, fun m fault => ?_, fun t => ?_⟩ <;> intro short
  · obtain ⟨closing, hes, hclosing, hend, hfail⟩ := hkept ⟨some n, none, fault⟩
    constructor
    · rw [hes, outputOf_append, output_closing hclosing, List.append_nil, Terminal.kept_limited]
    · split
      · rename_i hlong
        exact hfail fun h => absurd ((Terminal.endures_limited n fault _).mp h) (by omega)
      · rename_i hfits
        exact (hend ((Terminal.endures_limited n fault _).mpr (by omega))).2
  · split
    · rename_i hm
      exact run_stopped s e session world fault hm
    · rename_i hm
      obtain ⟨closing, hes, -, hend, -⟩ := hkept ⟨none, some m, fault⟩
      have hendures : (⟨none, some m, fault⟩ : Terminal).Endures full.events :=
        (Terminal.endures_flushes m fault _).mpr (by omega)
      obtain ⟨rfl, hresult⟩ := hend hendures
      refine ⟨hes.trans ?_, hresult⟩
      rw [List.append_nil]
      exact Terminal.kept_of_endures hendures
  · obtain ⟨closing, hes, hclosing, -, -⟩ := hkept t
    refine ⟨?_, ?_, fun sql h => ?_, ?_, run_held s e session rfl⟩
    · rw [hes, outputOf_append, output_closing hclosing, List.append_nil]
      exact Terminal.output_kept t _
    · have hcalls : calls (stage t).events = calls (t.kept full.events) ++ calls closing :=
        hes ▸ List.filter_append ..
      rw [hcalls, calls_closing hclosing, List.append_nil]
      exact Terminal.filter_kept t _ fun _ => rfl
    · subst h
      have hasked (t : Terminal) := runOnce_requests s e sql ⟨world, none, t⟩
      exact (hasked t).trans (hasked .unlimited).symm
    · have hnone : (⟨world, none, t⟩ : Desk κ σ).held = none := rfl
      exact ((run_tracked s e session hnone).opened_eq.trans (List.append_nil _)).symm

end Session

end SqlGuard
