import SqlGuard.Proofs.Lines
import SqlGuard.Proofs.Statements

/-!
# Outlines of conversations

A line at the prompt makes its requests first, and says what there is to be
said behind them (`handleLine_eq`). So a round, which is a prompt and the line
behind it, has one outline whether the terminal fails in it or not, unless it
fails before the prompt is flushed (`round_cases`).

* `converse_outline`: at any terminal a conversation has the outline of some
  number of `rounds`.
* `converse_unlimited`: at a terminal that never fails, it has that of all the
  rounds, and shows the `screen` of its lines.
-/
namespace SqlGuard

variable {κ σ : Type}

namespace Standing

open Outline

variable (s : Supplier κ σ) (e : Endpoint)

/-- What is said for a line, and what the line asks of the supplier. -/
def reply (line : List UInt8) (st : Standing κ σ) : List String × Outline κ σ :=
  match Text.Utf8.decodeString line with
  | .error malformed =>
    (["Error: input line is not valid UTF-8 (" ++ malformed.text ++ ")", ""], still st)
  | .ok text =>
    match Command.ofLine text with
    | .blank => ([], still st)
    | .leave => ([Screen.farewell], still st)
    | .help => ([Screen.help], still st)
    | .query sql => ([(st.answer s e sql).1, ""], (st.answer s e sql).2)

/-- A number of rounds of a conversation: a prompt, and what comes of the line behind it. -/
def rounds : Nat → List (List UInt8) → Standing κ σ → Outline κ σ
  | 0, _, st => still st
  | _ + 1, [], st => ⟨[.flushed], st⟩
  | n + 1, line :: rest, st =>
    mark .flushed ((st.reply s e line).2.next
      (if Line.leaves line then still else rounds n rest))

/-- Only a statement asks anything. -/
theorem reply_outline (line : List UInt8) (st : Standing κ σ) :
    (st.reply s e line).2 =
      match Line.statement? line with
      | none => still st
      | some sql => (st.answer s e sql).2 := by
  unfold reply Line.statement?
  cases Text.Utf8.decodeString line with
  | error malformed => rfl
  | ok text =>
    dsimp only
    cases hc : Command.ofLine text with
    | query sql => rw [Line.query_eq hc]
    | _ => rfl

/-- A line changes nothing, or it holds a statement and asks what the statement asks. -/
theorem reply_cases (line : List UInt8) (st : Standing κ σ) :
    (Line.statement? line = none ∧ (st.reply s e line).2 = still st) ∨
    ∃ sql, Line.statement? line = some sql ∧ (st.reply s e line).2 = (st.answer s e sql).2 ∧
      Asked s e sql (st.reply s e line).2.marks := by
  rw [reply_outline]
  cases Line.statement? line with
  | none => exact .inl ⟨rfl, rfl⟩
  | some sql => exact .inr ⟨sql, rfl, rfl, answer_asked s e sql st⟩

theorem reply_requests (line : List UInt8) (st : Standing κ σ) :
    ∀ ev ∈ (st.reply s e line).2.marks, ev.isRequest = true := by
  rcases reply_cases s e line st with ⟨-, h⟩ | ⟨sql, -, -, h⟩
  · simp [h, still]
  · exact h.requests

end Standing

namespace Session

open Act Outline Standing

variable (s : Supplier κ σ) (e : Endpoint)

def sayAll : List String → Act κ σ Unit
  | [] => done ()
  | text :: texts => do
    say text
    sayAll texts

/-- All of handling a line but saying what there is to be said. -/
def respond (line : List UInt8) : Act κ σ (List String) :=
  match Text.Utf8.decodeString line with
  | .error malformed => do
    note .warn target ("Discarding input line: " ++ malformed.text)
    done ["Error: input line is not valid UTF-8 (" ++ malformed.text ++ ")", ""]
  | .ok text =>
    match Command.ofLine text with
    | .blank => done []
    | .leave => done [Screen.farewell]
    | .help => done [Screen.help]
    | .query sql => do
      let outcome ← attend s e sql
      done [outcome, ""]

/-- What comes after a line is decided by the line alone. -/
def nextOf (line : List UInt8) : Next := bif Line.leaves line then .stop else .goOn

/-- A line is handled first, and all that there is to be said is said in the end. -/
theorem handleLine_eq (line : List UInt8) :
    handleLine s e line = (do
      let texts ← respond s e line
      sayAll texts
      done (nextOf line)) := by
  unfold handleLine respond nextOf Line.leaves
  cases Text.Utf8.decodeString line with
  | error malformed => simp only [sayAll, bind_bind, done_bind, cond]
  | ok text =>
    dsimp only
    cases Command.ofLine text with
    | query sql => simp only [handleQuery_eq, sayAll, bind_bind, done_bind, cond]
    | _ => simp only [sayAll, bind_bind, done_bind, cond]

theorem respond_does (line : List UInt8) : Does (respond s e line) fun st => st.reply s e line := by
  unfold respond Standing.reply
  cases Text.Utf8.decodeString line with
  | error malformed => exact ((Does.note _ _ _).bind fun _ => Does.done _).congr fun st => rfl
  | ok text =>
    dsimp only
    cases Command.ofLine text with
    | query sql => exact ((attend_does s e sql).bind fun _ => Does.done _).congr fun st => by simp
    | _ => exact Does.done _

theorem sayAll_still (texts : List String) : Still (sayAll texts : Act κ σ Unit) := by
  induction texts with
  | nil => exact Still.done ()
  | cons text texts ih => exact (Still.say text).bind fun _ => ih

theorem handleLine_outline (line : List UInt8) (desk : Desk κ σ) :
    (handleLine s e line desk).outline = (desk.standing.reply s e line).2 := by
  rw [handleLine_eq, (respond_does s e line).bind_outline,
    (sayAll_still _).bind (fun _ => Still.done _), (respond_does s e line).standing]
  exact next_still _

theorem handleLine_result {line : List UInt8} {desk : Desk κ σ} {next : Next}
    (h : (handleLine s e line desk).result = .ok next) : next = nextOf line := by
  rw [handleLine_eq, bind_ok ((respond_does s e line).result desk)] at h
  generalize (respond s e line desk).desk = desk' at h
  dsimp only [Stage.after] at h
  cases hr : (sayAll (desk.standing.reply s e line).1 desk').result with
  | error fault => rw [bind_error hr] at h; cases h
  | ok _ => rw [bind_ok hr] at h; cases h; rfl

theorem showPrompt_cases (desk : Desk κ σ) :
    (∃ fault, (showPrompt desk).result = .error fault ∧
      (showPrompt desk).outline = still desk.standing) ∨
    ((showPrompt desk).result = .ok () ∧
      (showPrompt desk).outline = ⟨[.flushed], desk.standing⟩) := by
  unfold showPrompt
  cases hw : (write (κ := κ) (σ := σ) Screen.prompt desk).result with
  | error fault =>
    rw [bind_error hw]
    exact .inl ⟨fault, rfl, Still.write Screen.prompt desk⟩
  | ok _ =>
    rw [bind_outline hw, bind_ok hw, Still.write, flush]
    split
    · exact .inr ⟨rfl, rfl⟩
    · exact .inl ⟨_, rfl, rfl⟩

theorem endInput_still (ending : Ending) : Still (endInput ending : Act κ σ Unit) := by
  cases ending with
  | failed detail => exact Still.fail _
  | _ => exact (Still.note _ _ _).bind fun _ => (Still.say _).bind fun _ => Still.say _

theorem showPrompt_plays : Plays (showPrompt : Act κ σ Unit) (fun st => ((), ⟨[.flushed], st⟩))
    fun _ => Text.Utf8.encodeString Screen.prompt :=
  ((Plays.write Screen.prompt).bind fun _ => Plays.flush).congr (fun st => by simp) fun st =>
    List.append_nil _

/-- What it takes to say some texts. -/
def octetsOf (texts : List String) : List UInt8 :=
  texts.flatMap fun text => Text.Utf8.encodeString (text ++ "\n")

theorem sayAll_plays (texts : List String) : Plays (sayAll texts : Act κ σ Unit)
    (fun st => ((), still st)) fun _ => octetsOf texts := by
  induction texts with
  | nil => exact (Does.done ()).plays
  | cons text texts ih =>
    exact ((Plays.write (text ++ "\n")).bind fun _ => ih).congr (fun st => by simp) fun st => rfl

theorem handleLine_plays (line : List UInt8) : Plays (handleLine s e line)
    (fun st => (nextOf line, (st.reply s e line).2)) fun st => octetsOf (st.reply s e line).1 := by
  rw [handleLine_eq]
  exact ((respond_does s e line).plays.bind fun texts =>
    (sayAll_plays texts).bind fun _ => (Does.done (nextOf line)).plays).congr
    (fun st => by simp) fun st => by simp

/-- One line of a conversation. -/
def round (line : List UInt8) : Act κ σ Next := do
  showPrompt
  handleLine s e line

theorem converse_cons (ending : Ending) (line : List UInt8) (rest : List (List UInt8)) :
    converse s e ending (line :: rest) = (do
      match ← round s e line with
      | .stop => done ()
      | .goOn => converse s e ending rest) := by
  rw [converse]
  exact (bind_bind showPrompt (fun _ => handleLine s e line) _).symm

theorem round_plays (line : List UInt8) : Plays (round s e line)
    (fun st => (nextOf line, mark .flushed (st.reply s e line).2)) fun st =>
      Text.Utf8.encodeString Screen.prompt ++ octetsOf (st.reply s e line).1 :=
  (showPrompt_plays.bind fun _ => handleLine_plays s e line).congr (fun _ => rfl) fun _ => rfl

/-- A round fails before the prompt is flushed or after the line is handled, or succeeds. -/
theorem round_cases (line : List UInt8) (desk : Desk κ σ) :
    (∃ fault, (round s e line desk).result = .error fault ∧
      ((round s e line desk).outline = still desk.standing ∨
        (round s e line desk).outline = mark .flushed (desk.standing.reply s e line).2)) ∨
    ((round s e line desk).result = .ok (nextOf line) ∧
      (round s e line desk).outline = mark .flushed (desk.standing.reply s e line).2) := by
  unfold round
  rcases showPrompt_cases desk with ⟨fault, hr, ho⟩ | ⟨hr, ho⟩
  · rw [bind_error hr]; exact .inl ⟨fault, rfl, .inl ho⟩
  have hs : (showPrompt desk).desk.standing = desk.standing := congrArg Outline.standing ho
  rw [bind_outline hr, bind_ok hr, ho, handleLine_outline, hs]
  cases ht : (handleLine s e line (showPrompt desk).desk).result with
  | error fault => exact .inl ⟨fault, ht, .inr rfl⟩
  | ok next =>
    obtain rfl := handleLine_result s e ht
    exact .inr ⟨ht, rfl⟩

/-- Wherever the terminal fails, what has happened by then is some number of rounds. -/
theorem converse_outline (ending : Ending) (lines : List (List UInt8)) (desk : Desk κ σ) :
    ∃ n, (converse s e ending lines desk).outline = desk.standing.rounds s e n lines := by
  induction lines generalizing desk with
  | nil =>
    rw [converse]
    rcases showPrompt_cases desk with ⟨fault, hr, ho⟩ | ⟨hr, ho⟩
    · exact ⟨0, by rw [bind_error hr]; exact ho⟩
    · exact ⟨1, by rw [bind_outline hr, endInput_still]; exact (next_still _).trans ho⟩
  | cons line rest ih =>
    rw [converse_cons]
    have last : (if Line.leaves line then still else rounds s e 0 rest) = still := by
      split <;> rfl
    rcases round_cases s e line desk with ⟨fault, hr, ho | ho⟩ | ⟨hr, ho⟩
    · exact ⟨0, by rw [bind_error hr]; exact ho⟩
    · exact ⟨1, by rw [bind_error hr, rounds, last, next_still]; exact ho⟩
    · have hs : (round s e line desk).desk.standing = _ := congrArg Outline.standing ho
      rw [bind_outline hr, ho, nextOf]
      cases hv : Line.leaves line with
      | true =>
        refine ⟨1, ?_⟩
        show (mark .flushed _).next (fun _ => still (round s e line desk).desk.standing) = _
        rw [rounds, hv, hs]
        rfl
      | false =>
        obtain ⟨n, hn⟩ := ih (round s e line desk).desk
        refine ⟨n + 1, ?_⟩
        show (mark .flushed _).next (fun _ => (converse s e ending rest _).outline) = _
        rw [rounds, hv, hn, hs]
        rfl

/-- What is said at the end of the input. -/
def goodbye : Ending → List String
  | .failed _ => []
  | _ => ["", Screen.farewell]

/-- What a conversation shows at a terminal that never fails. -/
def screen (ending : Ending) : List (List UInt8) → Standing κ σ → List UInt8
  | [], _ => Text.Utf8.encodeString Screen.prompt ++ octetsOf (goodbye ending)
  | line :: rest, st =>
    Text.Utf8.encodeString Screen.prompt ++ octetsOf (st.reply s e line).1 ++
      if Line.leaves line then [] else screen ending rest (st.reply s e line).2.standing

theorem farewell_plays (text : String) :
    Plays (do note .debug target text; say ""; say Screen.farewell : Act κ σ Unit)
      (fun st => ((), still st)) fun _ => octetsOf ["", Screen.farewell] :=
  ((Does.note .debug target text).plays.bind fun _ => (Plays.write _).bind fun _ =>
    Plays.write _).congr (fun _ => rfl) fun _ => by simp [octetsOf]

theorem endInput_output (ending : Ending) {desk : Desk κ σ} (ht : desk.terminal = .unlimited) :
    outputOf (endInput ending desk).events = octetsOf (goodbye ending) := by
  cases ending with
  | failed detail => rfl
  | _ => exact (farewell_plays _).output desk ht

/-- A terminal that never fails sees all the rounds: one for each line up to the first that
leaves, and one for the end of the input. -/
theorem converse_unlimited (ending : Ending) (lines : List (List UInt8)) (desk : Desk κ σ)
    (ht : desk.terminal = .unlimited) :
    (converse s e ending lines desk).outline = desk.standing.rounds s e (lines.length + 1) lines ∧
      outputOf (converse s e ending lines desk).events = screen s e ending lines desk.standing := by
  induction lines generalizing desk with
  | nil =>
    have hp := showPrompt_plays (κ := κ) (σ := σ)
    have hr := hp.result desk ht
    rw [converse, bind_outline hr, bind_ok hr, Stage.after, outputOf_append,
      hp.outline desk ht, hp.output desk ht, endInput_still,
      endInput_output ending (hp.terminal desk ht)]
    exact ⟨by rw [hp.standing ht]; rfl, rfl⟩
  | cons line rest ih =>
    have hp := round_plays s e line
    have hr := hp.result desk ht
    rw [converse_cons, bind_outline hr, bind_ok hr, Stage.after, outputOf_append,
      hp.outline desk ht, hp.output desk ht, nextOf, rounds, screen]
    cases hv : Line.leaves line with
    | true =>
      have hs := hp.standing ht
      refine ⟨?_, rfl⟩
      show (mark .flushed _).next (fun _ => still (round s e line desk).desk.standing) = _
      rw [hs]
      rfl
    | false =>
      obtain ⟨ho, hout⟩ := ih _ (hp.terminal desk ht)
      rw [hp.standing ht] at ho hout
      constructor
      · show (mark .flushed _).next (fun _ => (converse s e ending rest _).outline) = _
        rw [ho]
        rfl
      · exact congrArg _ hout

end Session

end SqlGuard
