import SqlGuard.Proofs.Ledger
import SqlGuard.Proofs.Octets

/-!
# The history of a session at the prompt

At a terminal that never fails, what a session asks of the supplier depends on
the admitted texts of its handled lines alone: it is what answering these texts
one after another asks (`runInteractive_requests`). Each of them is executed
once and in its order, or its attempt to connect is refused (`Answers`).

* `runInteractive_history`: the whole of it, from the octets of the input to the
  statements executed and the prompts shown.
-/
namespace SqlGuard

variable {κ σ α β : Type}

/-! ## Requests -/

/-- The requests among some events. -/
def requestsOf (events : List (Event κ)) : List (Event κ) := events.filter Event.isRequest

theorem requestsOf_append (es fs : List (Event κ)) :
    requestsOf (es ++ fs) = requestsOf es ++ requestsOf fs := List.filter_append ..

theorem requestsOf_marksOf (es : List (Event κ)) : requestsOf (marksOf es) = requestsOf es := by
  unfold requestsOf marksOf
  rw [List.filter_filter]
  congr 1
  funext ev
  cases ev <;> rfl

theorem requestsOf_eq_self {es : List (Event κ)} (h : ∀ ev ∈ es, ev.isRequest = true) :
    requestsOf es = es := List.filter_eq_self.mpr h

namespace Line

/-- A line that has no effect: it is blank, asks for help, is no text, or holds a statement that
the policy rejects. -/
def idle (line : List UInt8) : Bool :=
  match Text.Utf8.decodeString line with
  | .error _ => true
  | .ok text =>
    match Command.ofLine text with
    | .blank | .help => true
    | .leave => false
    | .query sql => Policy.classify sql ≠ .admitted

theorem idle_spec {line : List UInt8} (h : idle line = true) :
    leaves line = false ∧ admitted? line = none := by
  unfold idle at h
  unfold leaves admitted? statement?
  cases hd : Text.Utf8.decodeString line with
  | error malformed => exact ⟨rfl, rfl⟩
  | ok text =>
    rw [hd] at h
    dsimp only at h ⊢
    cases hc : Command.ofLine text with
    | query sql =>
      rw [hc] at h
      refine ⟨rfl, ?_⟩
      rw [query_eq hc] at h
      simpa using h
    | leave => rw [hc] at h; cases h
    | _ => exact ⟨rfl, rfl⟩

end Line

/-- The admitted texts of the lines that a session handles. -/
def handledTexts (lines : List (List UInt8)) : List String :=
  (handled lines).filterMap Line.admitted?

theorem handledTexts_cons (line : List UInt8) (rest : List (List UInt8)) :
    handledTexts (line :: rest) = (Line.admitted? line).toList ++
      if Line.leaves line then [] else handledTexts rest := by
  unfold handledTexts
  rw [handled]
  cases ha : Line.admitted? line <;> split <;> simp [ha]

theorem admitted_of_mem_handledTexts {lines : List (List UInt8)} {sql : String}
    (h : sql ∈ handledTexts lines) : Policy.classify sql = .admitted := by
  obtain ⟨line, -, hl⟩ := List.mem_filterMap.mp h
  exact of_decide_eq_true (Option.filter_eq_some_iff.mp hl).2

/-- A line without effect can stand anywhere. -/
theorem handledTexts_idle {line : List UInt8} (h : Line.idle line = true)
    (before after : List (List UInt8)) :
    handledTexts (before ++ line :: after) = handledTexts (before ++ after) := by
  obtain ⟨hl, ha⟩ := Line.idle_spec h
  induction before with
  | nil => simp [handledTexts_cons, hl, ha]
  | cons first before ih => rw [List.cons_append, List.cons_append, handledTexts_cons, ih,
      ← handledTexts_cons]

namespace Standing

open Outline

variable (s : Supplier κ σ) (e : Endpoint)

/-- Texts answered one after another. -/
def answers : List String → Standing κ σ → Outline κ σ
  | [], st => still st
  | sql :: rest, st => (st.answer s e sql).2.next (answers rest)

theorem answers_append (texts more : List String) (st : Standing κ σ) :
    st.answers s e (texts ++ more) = (st.answers s e texts).next (answers s e more) := by
  induction texts generalizing st with
  | nil => rfl
  | cons sql rest ih =>
    rw [List.cons_append, answers, answers, next_assoc]
    congr 1
    funext st'
    exact ih st'

/-- A line asks what its admitted text asks, if there is one. -/
theorem reply_answers (line : List UInt8) (st : Standing κ σ) :
    (st.reply s e line).2 = st.answers s e (Line.admitted? line).toList := by
  unfold Line.admitted?
  rcases reply_cases s e line st with ⟨hs, hr⟩ | ⟨sql, hs, hr, -⟩
  · rw [hs, hr]; rfl
  · rw [hs, hr, Option.filter_some]
    cases h : Policy.classify sql with
    | rejected reason => simp [answer, h, answers]
    | admitted => exact (next_still _).symm

end Standing

namespace Outline

/-- The outline without its prompts. -/
def promptless (o : Outline κ σ) : Outline κ σ := ⟨requestsOf o.marks, o.standing⟩

theorem promptless_next (o : Outline κ σ) (f : Standing κ σ → Outline κ σ) :
    (o.next f).promptless = o.promptless.next fun st => (f st).promptless := by
  unfold promptless next
  rw [requestsOf_append]

end Outline

namespace Session

open Act Outline Standing

variable (s : Supplier κ σ) (e : Endpoint)

/-- But for the prompts, some rounds ask what the texts of so many lines ask. -/
theorem rounds_promptless (n : Nat) (lines : List (List UInt8)) (st : Standing κ σ) :
    (st.rounds s e n lines).promptless = st.answers s e (handledTexts (lines.take n)) := by
  induction n generalizing lines st with
  | zero => rfl
  | succ n ih =>
    cases lines with
    | nil => rfl
    | cons line rest =>
      have hr : (st.reply s e line).2.promptless = (st.reply s e line).2 := by
        unfold promptless
        rw [requestsOf_eq_self (reply_requests s e line st)]
      show ((st.reply s e line).2.next _).promptless = _
      rw [promptless_next, hr, List.take_succ_cons, handledTexts_cons, answers_append,
        ← reply_answers]
      congr 1
      funext st'
      split
      · rfl
      · exact ih rest st'

/-- A session that comes some rounds far asks what the texts of so many lines ask, and closes the
client that is open in the end. -/
theorem requests_of_rounds {stage : Stage κ σ Unit} {n : Nat} {lines : List (List UInt8)}
    {st : Standing κ σ} (h : stage.outline = (st.rounds s e n lines).next (dismiss s)) :
    requestsOf stage.events =
      ((st.answers s e (handledTexts (lines.take n))).next (dismiss s)).marks := by
  have hd (st : Standing κ σ) : (st.dismiss s).promptless = st.dismiss s := by
    unfold promptless
    rw [requestsOf_eq_self (dismiss_requests s st)]
  rw [← requestsOf_marksOf]
  show stage.outline.promptless.marks = _
  rw [h, promptless_next, rounds_promptless]
  simp only [hd]

/-- At a terminal that never fails it comes to the end of its lines. -/
theorem runInteractive_requests (input : Input) {desk : Desk κ σ}
    (ht : desk.terminal = .unlimited) :
    requestsOf (runInteractive s e input desk).events =
      ((desk.standing.answers s e (handledTexts input.lines)).next (dismiss s)).marks := by
  rw [requests_of_rounds s e (runInteractive_unlimited s e input ht).1,
    List.take_of_length_le (by omega)]

end Session

/-! ## One answer for each text -/

/-- A statement was executed, or the attempt to connect for it was refused. -/
def Event.isAnswer : Event κ → Bool
  | executed .. | refused _ => true
  | _ => false

theorem filter_isAnswer_requestsOf (es : List (Event κ)) :
    (requestsOf es).filter Event.isAnswer = es.filter Event.isAnswer := by
  unfold requestsOf
  rw [List.filter_filter]
  congr 1
  funext ev
  cases ev <;> rfl

/-- Each text is answered in its order, either by executing it or by refusing to connect. -/
inductive Answers (s : Supplier κ σ) (e : Endpoint) : List String → List (Event κ) → Prop
  | nil : Answers s e [] []
  | executed {texts : List String} {es : List (Event κ)} (client : κ) (sql : String)
    (h : Answers s e texts es) : Answers s e (sql :: texts) (.executed client sql :: es)
  | refused {texts : List String} {es : List (Event κ)} {fault : Fault} {world : σ} (sql : String)
    (hr : (s.connect e world).result = .error fault) (h : Answers s e texts es) :
    Answers s e (sql :: texts) (.refused fault :: es)

namespace Answers

variable {s : Supplier κ σ} {e : Endpoint} {texts : List String}

/-- If connecting always succeeds, the texts executed are the texts. -/
theorem statements {es : List (Event κ)} (h : Answers s e texts es)
    (hs : ∀ world, ∃ client, (s.connect e world).result = .ok client) :
    es.filterMap Event.statement? = texts := by
  induction h with
  | nil => rfl
  | executed client sql _ ih => exact congrArg (sql :: ·) ih
  | refused sql hr _ _ =>
    obtain ⟨client, hc⟩ := hs _
    rw [hc] at hr
    cases hr

end Answers

theorem Standing.answers_answer (s : Supplier κ σ) (e : Endpoint) {texts : List String}
    (h : ∀ sql ∈ texts, Policy.classify sql = .admitted) (st : Standing κ σ) :
    Answers s e texts ((st.answers s e texts).marks.filter Event.isAnswer) := by
  induction texts generalizing st with
  | nil => exact .nil
  | cons sql rest ih =>
    have ha := answer_asked s e sql st
    have hrest := ih (fun sql' hm => h sql' (by simp [hm])) (st.answer s e sql).2.standing
    show Answers s e _ (((st.answer s e sql).2.marks ++ _).filter _)
    rw [List.filter_append]
    generalize (st.answer s e sql).2.marks = es at ha
    cases ha with
    | nothing hr =>
      rw [h sql (by simp)] at hr
      cases hr
    | refused _ hr => exact .refused sql hr hrest
    | served _ client ho hc =>
      rcases ho with rfl | rfl <;> rcases hc with rfl | rfl <;> exact .executed client sql hrest

/-! ## Prompts -/

/-- The event belongs to a prompt: it writes the prompt, or flushes it. -/
def Event.isPrompt : Event κ → Bool
  | wrote octets => octets == Text.Utf8.encodeString Screen.prompt
  | flushed => true
  | _ => false

/-- A number of prompts, each written and flushed before the next one. -/
def promptsShown (n : Nat) : List (Event κ) :=
  (List.replicate n [.wrote (Text.Utf8.encodeString Screen.prompt), .flushed]).flatten

namespace Act

open Outline

/-- An act that leaves the terminal alone shows no prompt if it flushes none. -/
theorem Does.unprompted {act : Act κ σ α} {f : Standing κ σ → α × Outline κ σ} (h : Does act f)
    (hf : ∀ st, ∀ ev ∈ (f st).2.marks, ev.isRequest = true) (desk : Desk κ σ) :
    (act desk).events.filter Event.isPrompt = [] := by
  refine List.filter_eq_nil_iff.mpr fun ev hev => ?_
  cases ev with
  | wrote octets => exact absurd hev (h.silent desk octets)
  | flushed =>
    have hm : .flushed ∈ (act desk).outline.marks := List.mem_filter.mpr ⟨hev, rfl⟩
    rw [h.outline] at hm
    cases hf _ _ hm
  | _ => simp [Event.isPrompt]

/-- At a terminal that never fails the act shows no prompt. -/
structure Unprompted (act : Act κ σ α) : Prop where
  events : ∀ desk, desk.terminal = .unlimited → (act desk).events.filter Event.isPrompt = []
  terminal : ∀ desk, desk.terminal = .unlimited → (act desk).desk.terminal = .unlimited

namespace Unprompted

theorem bind {act : Act κ σ α} {f : α → Act κ σ β} (h : Unprompted act)
    (hf : ∀ a, Unprompted (f a)) : Unprompted (act >>= f) where
  events desk ht := by
    cases hr : (act desk).result with
    | error fault => rw [bind_error hr]; exact h.events desk ht
    | ok a =>
      rw [bind_ok hr, Stage.after, List.filter_append, h.events desk ht,
        (hf a).events _ (h.terminal desk ht), List.append_nil]
  terminal desk ht := by
    cases hr : (act desk).result with
    | error fault => rw [bind_error hr]; exact h.terminal desk ht
    | ok a => rw [bind_ok hr]; exact (hf a).terminal _ (h.terminal desk ht)

theorem of_does {act : Act κ σ α} {f : Standing κ σ → α × Outline κ σ} (h : Does act f)
    (hf : ∀ st, ∀ ev ∈ (f st).2.marks, ev.isRequest = true) : Unprompted act :=
  ⟨fun desk _ => h.unprompted hf desk, fun desk ht => (h.terminal desk).trans ht⟩

theorem done (a : α) : Unprompted (Act.done a : Act κ σ α) := of_does (.done a) (by simp [still])

theorem note (level : Level) (target text : String) :
    Unprompted (Act.note level target text : Act κ σ Unit) :=
  of_does (.note level target text) (by simp [still])

/-- What is said ends with a newline, unlike the prompt. -/
theorem say (text : String) : Unprompted (Act.say text : Act κ σ Unit) where
  events := by
    rintro ⟨world, held, t⟩ rfl
    show List.filter _ [Event.wrote (Text.Utf8.encodeString (text ++ "\n"))] = []
    have hne : Text.Utf8.encodeString (text ++ "\n") ≠ Text.Utf8.encodeString Screen.prompt := by
      rw [Text.Utf8.encodeString_append, Text.Utf8.encodeString_newline]
      intro h
      have := congrArg List.getLast? h
      rw [List.getLast?_concat] at this
      revert this
      decide
    simp [Event.isPrompt, hne]
  terminal := by rintro ⟨world, held, t⟩ rfl; rfl

end Unprompted

end Act

namespace Session

open Act Outline Standing

variable (s : Supplier κ σ) (e : Endpoint)

theorem sayAll_unprompted (texts : List String) : Unprompted (sayAll texts : Act κ σ Unit) := by
  induction texts with
  | nil => exact .done ()
  | cons text texts ih => exact (Unprompted.say text).bind fun _ => ih

theorem handleLine_unprompted (line : List UInt8) : Unprompted (handleLine s e line) := by
  rw [handleLine_eq]
  exact (Unprompted.of_does (respond_does s e line) (reply_requests s e line)).bind fun texts =>
    (sayAll_unprompted texts).bind fun _ => .done _

theorem endInput_unprompted (ending : Ending) : Unprompted (endInput ending : Act κ σ Unit) := by
  cases ending with
  | failed detail => exact ⟨fun _ _ => rfl, fun _ ht => ht⟩
  | _ => exact (Unprompted.note _ _ _).bind fun _ => (Unprompted.say _).bind fun _ => .say _

/-- How many prompts a session shows: one for each line that it handles, and one for the end of
the input if it comes to it. -/
def promptCount (lines : List (List UInt8)) : Nat :=
  (handled lines).length + if lines.any Line.leaves then 0 else 1

theorem promptCount_cons (line : List UInt8) (rest : List (List UInt8)) :
    promptCount (line :: rest) = 1 + if Line.leaves line then 0 else promptCount rest := by
  unfold promptCount
  rw [handled]
  cases hv : Line.leaves line
  · simp [hv]
    omega
  · simp [hv]

theorem promptsShown_add (m n : Nat) :
    promptsShown (κ := κ) (m + n) = promptsShown m ++ promptsShown n := by
  unfold promptsShown
  rw [← List.flatten_append, List.replicate_append_replicate]

theorem converse_prompts (ending : Ending) (lines : List (List UInt8)) {desk : Desk κ σ}
    (ht : desk.terminal = .unlimited) :
    (converse s e ending lines desk).events.filter Event.isPrompt =
      promptsShown (promptCount lines) := by
  have hshow : ∀ desk : Desk κ σ, desk.terminal = .unlimited →
      (showPrompt desk).events.filter Event.isPrompt = promptsShown 1 := by
    rintro ⟨world, held, t⟩ rfl
    rfl
  have hp := showPrompt_plays (κ := κ) (σ := σ)
  induction lines generalizing desk with
  | nil =>
    rw [converse, bind_ok (hp.result desk ht), Stage.after, List.filter_append, hshow desk ht,
      (endInput_unprompted ending).events _ (hp.terminal desk ht)]
    rfl
  | cons line rest ih =>
    have hr := handleLine_plays s e line
    have ht' := hp.terminal desk ht
    rw [converse, bind_ok (hp.result desk ht), Stage.after, List.filter_append, hshow desk ht,
      bind_ok (hr.result _ ht'), Stage.after, List.filter_append,
      (handleLine_unprompted s e line).events _ ht', nextOf, promptCount_cons, promptsShown_add]
    cases Line.leaves line with
    | true => rfl
    | false => exact congrArg (_ ++ ·) (ih (hr.terminal _ ht'))

theorem runInteractive_prompts (input : Input) {desk : Desk κ σ}
    (ht : desk.terminal = .unlimited) :
    (runInteractive s e input desk).events.filter Event.isPrompt =
      promptsShown (promptCount input.lines) := by
  have hb := Plays.write (κ := κ) (σ := σ) (Screen.banner e ++ "\n")
  have hr : (say (Screen.banner e) desk).result = _ := hb.result desk ht
  have hd := (disconnect_does s).unprompted (dismiss_requests s)
  show List.filter _ (((do
    say (Screen.banner e)
    converse s e input.ending input.lines : Act κ σ Unit) desk).events ++ _) = _
  rw [List.filter_append, hd, List.append_nil, bind_ok hr, Stage.after, List.filter_append,
    (Unprompted.say _).events desk ht]
  exact converse_prompts s e input.ending input.lines (hb.terminal desk ht)

/-! ## The whole history -/

/-- The lines of an input are cut from its octets, however they arrive. At a terminal that never
fails the admitted texts of the handled lines are answered in order and once each: executed, or
refused while no client is open. If connecting always succeeds they are the texts executed. Lines
without effect can be left out anywhere. The prompt is written and flushed once for each line that
is handled, and once more unless a line asks to leave. -/
theorem runInteractive_history (input : Input) (world : σ) :
    let events (input : Input) :=
      (runInteractive s e input ⟨world, none, .unlimited⟩).events
    (∃ lines rest, Cut input.chunks.flatten lines rest ∧
      input.lines = if input.ending = .exhausted ∧ rest ≠ [] then lines ++ [rest] else lines) ∧
    Answers s e (handledTexts input.lines) ((events input).filter Event.isAnswer) ∧
    (∀ pre fault post, events input = pre ++ .refused fault :: post → opened pre = closed pre) ∧
    ((∀ world, ∃ client, (s.connect e world).result = .ok client) →
      (events input).filterMap Event.statement? = handledTexts input.lines) ∧
    (∀ input' before line after, Line.idle line = true → input.lines = before ++ line :: after →
      input'.lines = before ++ after → requestsOf (events input') = requestsOf (events input)) ∧
    (events input).filter Event.isPrompt = promptsShown (promptCount input.lines) := by
  intro events
  let desk : Desk κ σ := ⟨world, none, .unlimited⟩
  have ht : desk.terminal = .unlimited := rfl
  have hreq (input : Input) := runInteractive_requests s e input ht
  have hans : Answers s e (handledTexts input.lines) ((events input).filter Event.isAnswer) := by
    have hd (st : Standing κ σ) : (st.dismiss s).marks.filter Event.isAnswer = [] := by
      unfold dismiss
      split <;> rfl
    rw [← filter_isAnswer_requestsOf]
    show Answers s e _ ((requestsOf (runInteractive s e input _).events).filter _)
    rw [hreq, Outline.next, List.filter_append, hd, List.append_nil]
    exact answers_answer s e (fun _ => admitted_of_mem_handledTexts) _
  refine ⟨⟨_, _, input.assembled_cut, Input.lines_of_cut input.assembled_cut⟩, hans,
    fun pre fault post he => ?_, fun hs => ?_, fun input' before line after hi hl hl' => ?_,
    runInteractive_prompts s e input rfl⟩
  · have hd : desk.held = none := rfl
    have hl : Tracks none (marksOf (events input)) none :=
      run_tracked s e (.interactive input) hd
    rw [marksOf_split he rfl] at hl
    obtain ⟨_, hpre, hpost⟩ := hl.split
    cases hpost
    simpa using hpre.opened_eq
  · rw [← hans.statements hs, List.filterMap_filter]
    congr 1
    funext ev
    cases ev <;> rfl
  · show requestsOf (runInteractive s e input' _).events =
      requestsOf (runInteractive s e input _).events
    rw [hreq, hreq, hl, hl', handledTexts_idle hi]

end Session

end SqlGuard
