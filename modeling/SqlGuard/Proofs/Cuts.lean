import SqlGuard.Proofs.Admission

/-!
# Acts at a terminal that fails

What an act does at a terminal can be told from what it does at a terminal that
never fails. A terminal `Endures` some events if it takes all that they write
and flush. If it does not, `Terminal.kept` is what happens of them: everything
up to the first write or flush that fails, and of that write the octets that the
terminal still takes. An act that `Cuts` does what is kept, with the fault of
the terminal if it does not endure all of it.

* `kept_limited`: a limit on octets cuts what is shown at that length.
* `kept_flush`: a limit on flushes cuts before the first flush too many.
* `body_cuts`, `runOnce_cuts`: all of a session cuts, but for the closing of the
  client in the end.
-/
namespace SqlGuard

variable {κ σ α β : Type}

theorem prompts_append (es fs : List (Event κ)) : prompts (es ++ fs) = prompts es + prompts fs :=
  List.countP_append

/-! ## What happens at a terminal -/

namespace Terminal

/-- The terminal takes all that is written, and every flush. -/
def Endures (t : Terminal) (es : List (Event κ)) : Prop :=
  (∀ n, t.room = some n → (outputOf es).length ≤ n) ∧ ∀ m, t.flushes = some m → prompts es ≤ m

/-- The terminal behind some events that it endures. -/
def behind (t : Terminal) (es : List (Event κ)) : Terminal :=
  ⟨t.room.map (· - (outputOf es).length), t.flushes.map (· - prompts es), t.fault⟩

/-- The event does not fail at the terminal. -/
def lets (t : Terminal) : Event κ → Bool
  | .wrote octets => t.takes octets
  | .flushed => t.canFlush
  | _ => true

/-- What is left of an event that fails. -/
def stump (t : Terminal) : Event κ → List (Event κ)
  | .wrote octets => [.wrote (t.accepted octets)]
  | _ => []

/-- What happens at the terminal of some events. -/
def kept : Terminal → List (Event κ) → List (Event κ)
  | _, [] => []
  | t, ev :: es => if t.lets ev then ev :: kept (t.behind [ev]) es else t.stump ev

theorem behind_nil (t : Terminal) : t.behind ([] : List (Event κ)) = t := by
  obtain ⟨room, flushes, fault⟩ := t
  cases room <;> cases flushes <;> rfl

theorem behind_behind (t : Terminal) (es fs : List (Event κ)) :
    (t.behind es).behind fs = t.behind (es ++ fs) := by
  simp only [behind, Option.map_map, outputOf_append, List.length_append, prompts_append,
    Function.comp_def, Nat.sub_sub]

theorem endures_nil (t : Terminal) : t.Endures ([] : List (Event κ)) :=
  ⟨fun _ _ => Nat.zero_le _, fun _ _ => Nat.zero_le _⟩

theorem endures_append (t : Terminal) (es fs : List (Event κ)) :
    t.Endures (es ++ fs) ↔ t.Endures es ∧ (t.behind es).Endures fs := by
  have limit (l : Option Nat) (a b : Nat) : (∀ n, l = some n → a + b ≤ n) ↔
      (∀ n, l = some n → a ≤ n) ∧ ∀ n, l.map (· - a) = some n → b ≤ n := by
    cases l with
    | none => simp
    | some n =>
      simp only [Option.some.injEq, forall_eq', Option.map_some]
      omega
  simp only [Endures, behind, outputOf_append, List.length_append, prompts_append, limit]
  exact and_and_and_comm

/-- A terminal endures an event that does not fail at it. -/
theorem endures_singleton (t : Terminal) (ev : Event κ) : t.Endures [ev] ↔ t.lets ev = true := by
  obtain ⟨room, flushes, fault⟩ := t
  cases ev with
  | wrote octets =>
    cases room <;> simp [Endures, lets, takes, outputOf, Event.octets, prompts, Event.isFlush]
  | flushed =>
    have hone : prompts [.flushed (κ := κ)] = 1 := rfl
    cases flushes with
    | none => simp [Endures, lets, canFlush, outputOf, Event.octets]
    | some m =>
      simp [Endures, lets, canFlush, outputOf, Event.octets, hone]
      omega
  | _ => simp [Endures, lets, outputOf, Event.octets, prompts, Event.isFlush]

theorem kept_singleton {t : Terminal} (ev : Event κ) (h : ¬t.lets ev = true) :
    t.kept [ev] = t.stump ev := if_neg h

theorem endures_cons (t : Terminal) (ev : Event κ) (es : List (Event κ)) :
    t.Endures (ev :: es) ↔ t.lets ev = true ∧ (t.behind [ev]).Endures es := by
  rw [← endures_singleton]
  exact endures_append t [ev] es

theorem kept_of_endures {t : Terminal} {es : List (Event κ)} (h : t.Endures es) :
    t.kept es = es := by
  induction es generalizing t with
  | nil => rfl
  | cons ev es ih =>
    obtain ⟨hl, he⟩ := (endures_cons t ev es).mp h
    rw [kept, if_pos hl, ih he]

theorem kept_append {t : Terminal} {es : List (Event κ)} (h : t.Endures es) (fs : List (Event κ)) :
    t.kept (es ++ fs) = es ++ (t.behind es).kept fs := by
  induction es generalizing t with
  | nil => rw [behind_nil]; rfl
  | cons ev es ih =>
    obtain ⟨hl, he⟩ := (endures_cons t ev es).mp h
    rw [List.cons_append, kept, if_pos hl, ih he, behind_behind]
    rfl

/-- Nothing happens behind a failure. -/
theorem kept_append_of_not {t : Terminal} {es : List (Event κ)} (h : ¬t.Endures es)
    (fs : List (Event κ)) : t.kept (es ++ fs) = t.kept es := by
  induction es generalizing t with
  | nil => exact absurd (endures_nil t) h
  | cons ev es ih =>
    rw [List.cons_append, kept, kept]
    split
    · rename_i hl
      rw [ih fun he => h ((endures_cons t ev es).mpr ⟨hl, he⟩)]
    · rfl

/-- Of the events that are no writes, the first ones happen. -/
theorem filter_kept (t : Terminal) (es : List (Event κ)) {p : Event κ → Bool}
    (hp : ∀ octets, p (.wrote octets) = false) : (t.kept es).filter p <+: es.filter p := by
  induction es generalizing t with
  | nil => exact List.prefix_rfl
  | cons ev es ih =>
    rw [kept]
    split
    · rw [List.filter_cons, List.filter_cons]
      split
      · exact (List.prefix_append_right_inj [ev]).mpr (ih _)
      · exact ih _
    · cases ev with
      | wrote octets => simp [stump, hp]
      | _ => exact List.nil_prefix

theorem output_kept (t : Terminal) (es : List (Event κ)) :
    outputOf (t.kept es) <+: outputOf es := by
  induction es generalizing t with
  | nil => exact List.prefix_rfl
  | cons ev es ih =>
    rw [kept]
    split
    · exact (List.prefix_append_right_inj ev.octets).mpr (ih _)
    · cases ev with
      | wrote octets =>
        have hcut : t.accepted octets <+: octets := by
          unfold accepted
          split
          · exact List.take_prefix _ _
          · exact List.prefix_rfl
        have hshown : outputOf (t.stump (κ := κ) (.wrote octets)) = t.accepted octets :=
          List.append_nil _
        exact hshown ▸ hcut.trans (List.prefix_append octets _)
      | _ => exact List.nil_prefix

/-- A terminal for a limited number of octets shows so many of them. -/
theorem kept_limited (n : Nat) (fault : String) (es : List (Event κ)) :
    outputOf ((⟨some n, none, fault⟩ : Terminal).kept es) = (outputOf es).take n := by
  induction es generalizing n with
  | nil => exact List.take_nil.symm
  | cons ev es ih =>
    rw [kept]
    split
    · rename_i hl
      have hb : (⟨some n, none, fault⟩ : Terminal).behind [ev] =
          ⟨some (n - ev.octets.length), none, fault⟩ := by simp [behind, outputOf]
      have hfit : ev.octets.length ≤ n := by
        cases ev with
        | wrote octets => exact of_decide_eq_true hl
        | _ => exact Nat.zero_le n
      show ev.octets ++ outputOf (kept _ es) = (ev.octets ++ outputOf es).take n
      rw [hb, ih, List.take_append, List.take_of_length_le hfit]
    · rename_i hl
      cases ev with
      | wrote octets =>
        have hlong : n < octets.length := by simpa [lets, takes] using hl
        show octets.take n ++ [] = (octets ++ outputOf es).take n
        rw [List.append_nil, List.take_append_of_le_length (by omega)]
      | flushed => exact absurd rfl hl
      | _ => exact absurd rfl hl

theorem endures_limited (n : Nat) (fault : String) (es : List (Event κ)) :
    (⟨some n, none, fault⟩ : Terminal).Endures es ↔ (outputOf es).length ≤ n := by
  simp [Endures]

theorem endures_flushes (m : Nat) (fault : String) (es : List (Event κ)) :
    (⟨none, some m, fault⟩ : Terminal).Endures es ↔ prompts es ≤ m := by
  simp [Endures]

/-- A terminal for a limited number of flushes stops before the next one. -/
theorem kept_flush (fault : String) (pre post : List (Event κ)) :
    (⟨none, some (prompts pre), fault⟩ : Terminal).kept (pre ++ .flushed :: post) = pre := by
  have he : (⟨none, some (prompts pre), fault⟩ : Terminal).Endures pre :=
    (endures_flushes _ _ _).mpr (Nat.le_refl _)
  rw [kept_append he, kept]
  simp [behind, lets, canFlush, stump]

end Terminal

/-! ## Acts that cut -/

/-- The desk of this standing, at a terminal. -/
def Standing.desk (st : Standing κ σ) (t : Terminal) : Desk κ σ := ⟨st.world, st.held, t⟩

@[simp] theorem Standing.standing_desk (st : Standing κ σ) (t : Terminal) :
    (st.desk t).standing = st := rfl

theorem Desk.standing_desk (desk : Desk κ σ) {t : Terminal} (h : desk.terminal = t) :
    desk.standing.desk t = desk := by
  subst h
  rfl

namespace Act

/-- At any terminal the act does as much as happens there of what it does at a terminal that never
fails. It succeeds or fails as it does there if the terminal endures it, and otherwise it fails with
the fault of the terminal. -/
structure Cuts (act : Act κ σ α) : Prop where
  terminal : ∀ st : Standing κ σ, (act (st.desk .unlimited)).desk.terminal = .unlimited
  endured : ∀ (st : Standing κ σ) (t : Terminal), let full := act (st.desk .unlimited)
    t.Endures full.events →
      act (st.desk t) = ⟨full.events, full.result, full.desk.standing.desk (t.behind full.events)⟩
  failed : ∀ (st : Standing κ σ) (t : Terminal), let full := act (st.desk .unlimited)
    ¬t.Endures full.events → (act (st.desk t)).events = t.kept full.events ∧
      (act (st.desk t)).result = .error (.io t.fault)

namespace Cuts

/-- An act that the terminal does not matter to, and that shows nothing. -/
theorem of_silent {act : Act κ σ α}
    (hact : ∀ (st : Standing κ σ) (t : Terminal), act (st.desk t) =
      ⟨(act (st.desk .unlimited)).events, (act (st.desk .unlimited)).result,
        (act (st.desk .unlimited)).desk.standing.desk t⟩)
    (hes : ∀ st : Standing κ σ, ∀ ev ∈ (act (st.desk .unlimited)).events,
      ev.octets = [] ∧ ev.isFlush = false) : Cuts act := by
  have hshown (st : Standing κ σ) : outputOf (act (st.desk .unlimited)).events = [] :=
    List.flatMap_eq_nil_iff.mpr fun ev hev => (hes st ev hev).1
  have hflushed (st : Standing κ σ) : prompts (act (st.desk .unlimited)).events = 0 :=
    List.countP_eq_zero.mpr fun ev hev => by simp [(hes st ev hev).2]
  refine ⟨fun st => congrArg (·.desk.terminal) (hact st .unlimited), fun st t => ?_, fun st t => ?_⟩
    <;> intro full h
  · have hb : t.behind full.events = t := by
      obtain ⟨room, flushes, fault⟩ := t
      show Terminal.mk (room.map (· - (outputOf full.events).length))
        (flushes.map (· - prompts full.events)) fault = _
      rw [hshown st, hflushed st]
      exact Terminal.behind_nil (κ := κ) ⟨room, flushes, fault⟩
    rw [hb]
    exact hact st t
  · exact absurd ⟨by simp [full, hshown], by simp [full, hflushed]⟩ h

theorem bind {act : Act κ σ α} {f : α → Act κ σ β} (h : Cuts act) (hf : ∀ a, Cuts (f a)) :
    Cuts (act >>= f) := by
  have hdesk (st : Standing κ σ) := Desk.standing_desk _ (h.terminal st)
  refine ⟨fun st => ?_, fun st t => ?_, fun st t => ?_⟩
  · cases hr : (act (st.desk .unlimited)).result with
    | error fault =>
      rw [bind_error hr]
      exact h.terminal st
    | ok a =>
      rw [bind_ok hr, ← hdesk]
      exact (hf a).terminal _
  · intro full he
    cases hr : (act (st.desk .unlimited)).result with
    | error fault =>
      have hfull : full = ⟨_, .error fault, _⟩ := bind_error hr
      rw [hfull] at he ⊢
      have ha := h.endured st t he
      have hr' : (act (st.desk t)).result = .error fault := by rw [ha, hr]
      rw [bind_error hr', ha]
    | ok a =>
      have hfull : full = _ := bind_ok hr
      rw [hfull, ← hdesk] at he ⊢
      obtain ⟨hfirst, hsecond⟩ := (Terminal.endures_append t _ _).mp he
      have ha := h.endured st t hfirst
      have hr' : (act (st.desk t)).result = .ok a := by rw [ha, hr]
      rw [bind_ok hr', ha]
      dsimp only
      rw [(hf a).endured _ _ hsecond]
      simp only [Stage.after, Terminal.behind_behind]
  · intro full he
    cases hr : (act (st.desk .unlimited)).result with
    | error fault =>
      have hfull : full = ⟨_, .error fault, _⟩ := bind_error hr
      rw [hfull] at he ⊢
      obtain ⟨hes, hr'⟩ := h.failed st t he
      rw [bind_error hr']
      exact ⟨hes, rfl⟩
    | ok a =>
      have hfull : full = _ := bind_ok hr
      rw [hfull, ← hdesk] at he ⊢
      -- either the first act fails already, or it is the second one that does
      by_cases hfirst : t.Endures (act (st.desk .unlimited)).events
      · have hsecond := fun he' => he ((Terminal.endures_append t _ _).mpr ⟨hfirst, he'⟩)
        have ha := h.endured st t hfirst
        have hr' : (act (st.desk t)).result = .ok a := by rw [ha, hr]
        obtain ⟨hes, hresult⟩ := (hf a).failed _ _ hsecond
        rw [bind_ok hr', ha]
        refine ⟨?_, hresult⟩
        show _ ++ _ = t.kept (_ ++ _)
        rw [Terminal.kept_append hfirst, hes]
      · obtain ⟨hes, hr'⟩ := h.failed st t hfirst
        rw [bind_error hr']
        refine ⟨?_, rfl⟩
        show _ = t.kept (_ ++ _)
        rw [Terminal.kept_append_of_not hfirst]
        exact hes

theorem done (a : α) : Cuts (Act.done a : Act κ σ α) :=
  of_silent (fun _ _ => rfl) fun _ _ h => absurd h List.not_mem_nil

theorem fail (fault : Fault) : Cuts (Act.fail fault : Act κ σ α) :=
  of_silent (fun _ _ => rfl) fun _ _ h => absurd h List.not_mem_nil

theorem held : Cuts (Act.held : Act κ σ (Option κ)) :=
  of_silent (fun _ _ => rfl) fun _ _ h => absurd h List.not_mem_nil

theorem hold (client : Option κ) : Cuts (Act.hold client : Act κ σ Unit) :=
  of_silent (fun _ _ => rfl) fun _ _ h => absurd h List.not_mem_nil

theorem note (level : Level) (target text : String) :
    Cuts (Act.note level target text : Act κ σ Unit) :=
  of_silent (fun _ _ => rfl) fun _ ev h => by
    rw [List.mem_singleton.mp h]
    exact ⟨rfl, rfl⟩

theorem write (text : String) : Cuts (Act.write text : Act κ σ Unit) := by
  let octets := Text.Utf8.encodeString text
  refine ⟨fun st => rfl, fun st t => ?_, fun st t => ?_⟩ <;> intro full he
  · have htakes : t.takes octets = true := (t.endures_singleton (κ := κ) (.wrote octets)).mp he
    have haccepted : t.accepted octets = octets := by
      unfold Terminal.takes at htakes
      unfold Terminal.accepted
      split
      · rename_i n hn
        rw [hn] at htakes
        exact List.take_of_length_le (of_decide_eq_true htakes)
      · rfl
    have hbehind : t.afterWriting octets = t.behind full.events := by
      obtain ⟨room, flushes, fault⟩ := t
      show Terminal.mk _ _ _ = ⟨room.map (· - (octets ++ []).length), flushes.map (· - 0), fault⟩
      rw [List.append_nil]
      cases flushes <;> rfl
    show Stage.mk [.wrote (t.accepted octets)] (if t.takes octets then _ else _)
      ⟨st.world, st.held, t.afterWriting octets⟩ = _
    rw [if_pos htakes, haccepted, hbehind]
    rfl
  · have htakes : ¬t.takes octets = true := fun h =>
      he ((t.endures_singleton (κ := κ) (.wrote octets)).mpr h)
    constructor
    · exact (Terminal.kept_singleton (.wrote octets) htakes).symm
    · exact if_neg htakes

theorem flush : Cuts (Act.flush : Act κ σ Unit) := by
  refine ⟨fun st => rfl, fun st t => ?_, fun st t => ?_⟩ <;> intro full he
  · have hcan : t.canFlush = true := (t.endures_singleton (κ := κ) .flushed).mp he
    have hbehind : t.afterFlushing = t.behind full.events := by
      obtain ⟨room, flushes, fault⟩ := t
      show Terminal.mk _ _ _ = ⟨room.map (· - 0), flushes.map (· - 1), fault⟩
      cases room <;> rfl
    show (if t.canFlush then Stage.mk [.flushed] (.ok ()) ⟨st.world, st.held, t.afterFlushing⟩
      else _) = _
    rw [if_pos hcan, hbehind]
    rfl
  · have hcan : ¬t.canFlush = true := fun h => he ((t.endures_singleton (κ := κ) .flushed).mpr h)
    have hact : Act.flush (st.desk t) = ⟨[], .error (.io t.fault), st.desk t⟩ := if_neg hcan
    rw [hact]
    exact ⟨(Terminal.kept_singleton .flushed hcan).symm, rfl⟩

theorem say (text : String) : Cuts (Act.say text : Act κ σ Unit) := write (text ++ "\n")

/-! ### Requests -/

theorem silent_notes {ns : List Note} {ev : Event κ} (h : ev ∈ (Event.notes ns : List (Event κ))) :
    ev.octets = [] ∧ ev.isFlush = false := by
  obtain ⟨n, -, rfl⟩ := List.mem_map.mp h
  exact ⟨rfl, rfl⟩

theorem connect (s : Supplier κ σ) (e : Endpoint) : Cuts (Act.connect s e) :=
  of_silent (fun _ _ => rfl) fun st ev h => by
    rcases List.mem_append.mp h with h | h
    · exact silent_notes h
    · rw [List.mem_singleton.mp h]
      split <;> exact ⟨rfl, rfl⟩

theorem silent_run (s : Supplier κ σ) (client : κ) (sql : String) (world : σ) {ev : Event κ}
    (h : ev ∈ (Execution.run s client sql world).events) :
    ev.octets = [] ∧ ev.isFlush = false := by
  unfold Execution.run at h
  cases hc : Policy.classify sql with
  | rejected reason =>
    rw [hc] at h
    rw [List.mem_singleton.mp h]
    exact ⟨rfl, rfl⟩
  | admitted =>
    have asked : ev ∈ .executed client sql :: Event.notes (s.execute client sql world).notes →
        ev.octets = [] ∧ ev.isFlush = false := fun h => by
      rcases List.mem_cons.mp h with rfl | h
      · exact ⟨rfl, rfl⟩
      · exact silent_notes h
    rw [hc] at h
    dsimp only at h
    cases hr : (s.execute client sql world).result with
    | ok answer =>
      rw [hr] at h
      exact asked h
    | error fault =>
      rw [hr] at h
      rcases List.mem_append.mp h with h | h
      · exact asked h
      · rw [List.mem_singleton.mp h]
        exact ⟨rfl, rfl⟩

theorem execute (s : Supplier κ σ) (client : κ) (sql : String) :
    Cuts (Act.execute s client sql) := by
  unfold Act.execute
  exact of_silent (fun _ _ => rfl) fun st ev h => silent_run s client sql st.world h

theorem release (s : Supplier κ σ) (target : String) (client : κ) :
    Cuts (Act.release s target client) :=
  of_silent (fun _ _ => rfl) fun st ev h => by
    rcases List.mem_cons.mp h with rfl | h
    · exact ⟨rfl, rfl⟩
    rcases List.mem_append.mp h with h | h
    · exact silent_notes h
    · split at h
      · exact absurd h List.not_mem_nil
      · rw [List.mem_singleton.mp h]
        exact ⟨rfl, rfl⟩

end Cuts

end Act

/-! ## Sessions -/

namespace Session

open Act

variable (s : Supplier κ σ) (e : Endpoint)

theorem disconnect_cuts : Cuts (disconnect s) := by
  refine Cuts.held.bind fun client => ?_
  cases client with
  | none => exact .done ()
  | some client => exact (Cuts.hold none).bind fun _ => .release s target client

theorem client_cuts : Cuts (Session.client s e) := by
  refine Cuts.held.bind fun client => ?_
  cases client with
  | some client => exact .done _
  | none =>
    refine (Cuts.connect s e).bind fun reply => ?_
    cases reply with
    | error fault => exact .done _
    | ok client =>
      exact (Cuts.note _ _ _).bind fun _ => (Cuts.hold _).bind fun _ => .done _

theorem attend_cuts (sql : String) : Cuts (attend s e sql) := by
  unfold attend
  cases Policy.classify sql with
  | rejected reason => exact (Cuts.note _ _ _).bind fun _ => .done _
  | admitted =>
    refine (client_cuts s e).bind fun reply => ?_
    cases reply with
    | error fault => exact .done _
    | ok client =>
      refine Cuts.bind ?_ fun execution => .done _
      refine (Cuts.execute s client sql).bind fun execution => ?_
      cases execution.losesClient with
      | false => exact .done _
      | true =>
        exact (Cuts.note _ _ _).bind fun _ => (disconnect_cuts s).bind fun _ => .done _

theorem handleQuery_cuts (sql : String) : Cuts (handleQuery s e sql) := by
  rw [handleQuery_eq]
  exact (attend_cuts s e sql).bind Cuts.say

theorem handleLine_cuts (line : List UInt8) : Cuts (handleLine s e line) := by
  unfold handleLine
  cases Text.Utf8.decodeString line with
  | error malformed =>
    exact (Cuts.note _ _ _).bind fun _ => (Cuts.say _).bind fun _ => (Cuts.say _).bind fun _ =>
      .done _
  | ok text =>
    dsimp only
    cases Command.ofLine text with
    | blank => exact .done _
    | leave => exact (Cuts.say _).bind fun _ => .done _
    | help => exact (Cuts.say _).bind fun _ => .done _
    | query sql => exact (handleQuery_cuts s e sql).bind fun _ => (Cuts.say _).bind fun _ => .done _

theorem showPrompt_cuts : Cuts (showPrompt : Act κ σ Unit) :=
  (Cuts.write _).bind fun _ => .flush

theorem endInput_cuts (ending : Ending) : Cuts (endInput ending : Act κ σ Unit) := by
  cases ending with
  | failed detail => exact .fail _
  | _ => exact (Cuts.note _ _ _).bind fun _ => (Cuts.say _).bind fun _ => .say _

theorem converse_cuts (ending : Ending) (lines : List (List UInt8)) :
    Cuts (converse s e ending lines) := by
  induction lines with
  | nil => exact showPrompt_cuts.bind fun _ => endInput_cuts ending
  | cons line rest ih =>
    refine showPrompt_cuts.bind fun _ => (handleLine_cuts s e line).bind fun next => ?_
    cases next with
    | stop => exact .done ()
    | goOn => exact ih

theorem conclude_cuts (result : Except Fault Unit) : Cuts (conclude result : Act κ σ Unit) := by
  cases result with
  | ok _ => exact .done ()
  | error fault => exact .fail fault

theorem runOnce_cuts (sql : String) : Cuts (runOnce s e sql) := by
  rw [runOnce_eq]
  refine Cuts.bind ?_ fun outcome => (Cuts.say _).bind fun _ => conclude_cuts _
  unfold perform
  cases Policy.classify sql with
  | rejected reason => exact (Cuts.note _ _ _).bind fun _ => .done _
  | admitted =>
    refine (Cuts.connect s e).bind fun reply => ?_
    cases reply with
    | error fault => exact .done _
    | ok client =>
      exact (Cuts.execute s client sql).bind fun _ => (Cuts.release s target client).bind fun _ =>
        .done _

/-- All of a session at the prompt but closing the client in the end. -/
def body (input : Input) : Act κ σ Unit := do
  say (Screen.banner e)
  converse s e input.ending input.lines

theorem body_cuts (input : Input) : Cuts (body s e input) :=
  (Cuts.say _).bind fun _ => converse_cuts s e input.ending input.lines

end Session

end SqlGuard
