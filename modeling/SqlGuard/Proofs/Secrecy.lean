import SqlGuard.Proofs.Statements
import SqlGuard.Server.Network

/-!
# The password never shows

Two runs of the same sessions, to endpoints that differ in the password alone,
side by side. An `Observer` watches both of them: which notes are seen, and
which clients and which states behind the supplier pass for the same. If the
supplier gives the observer nothing to tell the runs apart by (`Discreet`), no
act of a session does (`Alike`).

* `runAll_sight`: sessions in a row look the same in both runs.
* `password_unseen`: the same for every supplier that is discreet about the
  password, and for the clients of a server.
-/
namespace SqlGuard

/-- The same endpoint with another password. -/
def Endpoint.withPassword (e : Endpoint) (password : String) : Endpoint := { e with password }

theorem Endpoint.withPassword_display (e : Endpoint) (password : String) :
    (e.withPassword password).display = e.display := rfl

theorem Screen.banner_withPassword (e : Endpoint) (password : String) :
    banner (e.withPassword password) = banner e := rfl

theorem Server.Failure.whileConnecting_withPassword (failure : Failure) (e : Endpoint)
    (password : String) :
    failure.whileConnecting (e.withPassword password) = failure.whileConnecting e := rfl

variable {κ σ α β : Type}

/-- Both results are the same fault, or values in a relation. -/
inductive Agree (V : α → α → Prop) : Except Fault α → Except Fault α → Prop
  | ok {a b : α} (h : V a b) : Agree V (.ok a) (.ok b)
  | error (fault : Fault) : Agree V (.error fault) (.error fault)

theorem Agree.eq {a b : Except Fault α} (h : Agree Eq a b) : a = b := by
  cases h with
  | ok h => rw [h]
  | error fault => rfl

theorem Agree.refl (a : Except Fault α) : Agree Eq a a := by
  cases a with
  | ok a => exact .ok rfl
  | error fault => exact .error fault

/-- Someone who watches two runs. -/
structure Observer (κ σ : Type) where
  /-- The notes that can be seen. -/
  sees : Note → Bool
  /-- Clients that pass for the same. -/
  clients : κ → κ → Prop
  /-- States behind the supplier that pass for the same. -/
  worlds : σ → σ → Prop

/-- What can be seen of a session. -/
structure Sight where
  events : List (Event Unit)
  octets : List UInt8
  result : Except Fault Unit
  exitCode : Nat

namespace Observer

/-- What is seen of an event. Which client it concerns is not. -/
def glimpse (o : Observer κ σ) : Event κ → Option (Event Unit)
  | .wrote octets => some (.wrote octets)
  | .flushed => some .flushed
  | .connected _ => some (.connected ())
  | .refused fault => some (.refused fault)
  | .executed _ sql => some (.executed () sql)
  | .closed _ => some (.closed ())
  | .noted note => if o.sees note then some (.noted note) else none

def view (o : Observer κ σ) (events : List (Event κ)) : List (Event Unit) :=
  events.filterMap o.glimpse

def sight (o : Observer κ σ) (stage : Stage κ σ Unit) : Sight :=
  ⟨o.view stage.events, outputOf stage.events, stage.result, Session.exitCode stage.result⟩

/-- Replies that pass for the same. -/
structure Replies (o : Observer κ σ) (V : α → α → Prop) (r r' : Reply σ α) : Prop where
  result : Agree V r.result r'.result
  notes : r.notes.filter o.sees = r'.notes.filter o.sees
  world : o.worlds r.state r'.state

/-- A supplier that refuses, replies and takes its time in the same way for both endpoints, as far
as the observer can tell. -/
structure Discreet (o : Observer κ σ) (s : Supplier κ σ) (e e' : Endpoint) : Prop where
  connect {w w' : σ} (hw : o.worlds w w') : o.Replies o.clients (s.connect e w) (s.connect e' w')
  execute {c c' : κ} {w w' : σ} (hc : o.clients c c') (hw : o.worlds w w') (sql : String) :
    o.Replies Eq (s.execute c sql w) (s.execute c' sql w')
  duration {c c' : κ} {w w' : σ} (hc : o.clients c c') (hw : o.worlds w w') (sql : String) :
    s.duration c sql w = s.duration c' sql w'
  close {c c' : κ} {w w' : σ} (hc : o.clients c c') (hw : o.worlds w w') :
    o.Replies Eq (s.close c w) (s.close c' w')

/-- Desks that pass for the same. -/
structure Desks (o : Observer κ σ) (desk desk' : Desk κ σ) : Prop where
  world : o.worlds desk.world desk'.world
  held : Option.Rel o.clients desk.held desk'.held
  terminal : desk.terminal = desk'.terminal

/-- Stages that look the same, and leave desks that pass for the same. -/
structure Stages (o : Observer κ σ) (V : α → α → Prop) (stage stage' : Stage κ σ α) : Prop where
  view : o.view stage.events = o.view stage'.events
  result : Agree V stage.result stage'.result
  desk : o.Desks stage.desk stage'.desk

/-- Acts that look the same at desks that pass for the same. -/
def Alike (o : Observer κ σ) (V : α → α → Prop) (act act' : Act κ σ α) : Prop :=
  ∀ desk desk' : Desk κ σ, o.Desks desk desk' → o.Stages V (act desk) (act' desk')

/-! ## Views -/

variable (o : Observer κ σ)

@[simp] theorem view_append (es fs : List (Event κ)) :
    o.view (es ++ fs) = o.view es ++ o.view fs := List.filterMap_append

theorem view_cons (ev : Event κ) (es : List (Event κ)) :
    o.view (ev :: es) = o.view [ev] ++ o.view es := o.view_append [ev] es

theorem view_notes (ns : List Note) :
    o.view (Event.notes ns) = Event.notes (ns.filter o.sees) := by
  induction ns with
  | nil => rfl
  | cons n ns ih =>
    show o.view (.noted n :: Event.notes ns) = _
    rw [view_cons, ih, List.filter_cons]
    by_cases hn : o.sees n = true <;> simp [view, glimpse, hn, Event.notes]

/-- What is seen tells what the terminal took. -/
theorem outputOf_view (es : List (Event κ)) : outputOf (o.view es) = outputOf es := by
  induction es with
  | nil => rfl
  | cons ev es ih =>
    have hev : outputOf (o.view [ev]) = outputOf [ev] := by
      cases ev with
      | noted n =>
        by_cases hn : o.sees n = true <;> simp [view, glimpse, hn, outputOf, Event.octets]
      | _ => rfl
    rw [view_cons, outputOf_append, ih, hev]
    exact (outputOf_append [ev] es).symm

variable {o}

theorem Stages.sight {stage stage' : Stage κ σ Unit} (h : o.Stages Eq stage stage') :
    o.sight stage = o.sight stage' := by
  have houtput : outputOf stage.events = outputOf stage'.events := by
    rw [← o.outputOf_view, h.view, o.outputOf_view]
  rw [Observer.sight, Observer.sight, h.view, houtput, h.result.eq]

/-! ## Acts -/

namespace Alike

variable {V : α → α → Prop} {U : β → β → Prop} {act act' : Act κ σ α} {f f' : α → Act κ σ β}

theorem bind (h : o.Alike V act act') (hf : ∀ a a', V a a' → o.Alike U (f a) (f' a')) :
    o.Alike U (act >>= f) (act' >>= f') := by
  intro desk desk' hd
  obtain ⟨hview, hresult, hdesk⟩ := h desk desk' hd
  generalize hr : (act desk).result = r at hresult
  generalize hr' : (act' desk').result = r' at hresult
  cases hresult with
  | error fault =>
    rw [Act.bind_error hr, Act.bind_error hr']
    exact ⟨hview, .error fault, hdesk⟩
  | ok hv =>
    obtain ⟨hview', hresult', hdesk'⟩ := hf _ _ hv _ _ hdesk
    rw [Act.bind_ok hr, Act.bind_ok hr']
    refine ⟨?_, hresult', hdesk'⟩
    rw [Stage.after, Stage.after, view_append, view_append, hview, hview']

/-- After an act whose value is the same in both runs. -/
theorem before (h : o.Alike Eq act act') (hf : ∀ a, o.Alike U (f a) (f' a)) :
    o.Alike U (act >>= f) (act' >>= f') :=
  h.bind fun a _ ha => ha ▸ hf a

theorem andThen {final final' : Act κ σ Unit} (h : o.Alike V act act')
    (hfinal : o.Alike Eq final final') : o.Alike V (act.andThen final) (act'.andThen final') := by
  intro desk desk' hd
  obtain ⟨hview, hresult, hdesk⟩ := h desk desk' hd
  obtain ⟨hview', -, hdesk'⟩ := hfinal _ _ hdesk
  refine ⟨?_, hresult, hdesk'⟩
  show o.view (_ ++ _) = o.view (_ ++ _)
  rw [view_append, view_append, hview, hview']

theorem done {a a' : α} (h : V a a') : o.Alike V (Act.done a) (Act.done a') :=
  fun _ _ hd => ⟨rfl, .ok h, hd⟩

theorem fail (fault : Fault) : o.Alike V (Act.fail fault) (Act.fail fault) :=
  fun _ _ hd => ⟨rfl, .error fault, hd⟩

theorem note (level : Level) (target text : String) :
    o.Alike Eq (Act.note level target text) (Act.note level target text) :=
  fun _ _ hd => ⟨rfl, .ok rfl, hd⟩

theorem write (text : String) : o.Alike Eq (Act.write text) (Act.write text) := by
  rintro ⟨w, c, t⟩ ⟨w', c', t'⟩ ⟨hw, hc, ht⟩
  obtain rfl : t = t' := ht
  exact ⟨rfl, .refl _, hw, hc, rfl⟩

theorem say (text : String) : o.Alike Eq (Act.say text) (Act.say text) := write (text ++ "\n")

theorem flush : o.Alike Eq Act.flush Act.flush := by
  rintro ⟨w, c, t⟩ ⟨w', c', t'⟩ ⟨hw, hc, ht⟩
  obtain rfl : t = t' := ht
  unfold Act.flush
  by_cases hf : t.canFlush = true
  · rw [if_pos hf, if_pos hf]
    exact ⟨rfl, .ok rfl, hw, hc, rfl⟩
  · rw [if_neg hf, if_neg hf]
    exact ⟨rfl, .error _, hw, hc, rfl⟩

theorem held : o.Alike (Option.Rel o.clients) Act.held Act.held :=
  fun _ _ hd => ⟨rfl, .ok hd.held, hd⟩

theorem hold {c c' : Option κ} (h : Option.Rel o.clients c c') :
    o.Alike Eq (Act.hold c) (Act.hold c') :=
  fun _ _ hd => ⟨rfl, .ok rfl, hd.world, h, hd.terminal⟩

theorem report (execution : Execution) :
    o.Alike Eq (Session.report execution) (Session.report execution) := by
  cases execution <;> exact say _

theorem settle (execution : Execution) :
    o.Alike Eq (Session.settle execution) (Session.settle execution) := by
  unfold Session.settle
  cases execution.fault? with
  | none => exact done rfl
  | some fault => exact fail fault

end Alike

/-! ## Requests -/

namespace Discreet

open Session

variable {s : Supplier κ σ} {e e' : Endpoint}

theorem connect_alike (h : o.Discreet s e e') :
    o.Alike (Agree o.clients) (Act.connect s e) (Act.connect s e') := by
  intro desk desk' hd
  obtain ⟨hresult, hnotes, hworld⟩ := h.connect hd.world
  refine ⟨?_, .ok hresult, hworld, hd.held, hd.terminal⟩
  unfold Act.connect
  dsimp only
  generalize (s.connect e desk.world).result = r at hresult ⊢
  generalize (s.connect e' desk'.world).result = r' at hresult ⊢
  rw [view_append, view_append, view_notes, view_notes, hnotes]
  cases hresult <;> rfl

theorem execute_alike (h : o.Discreet s e e') {c c' : κ} (hc : o.clients c c') (sql : String) :
    o.Alike Eq (Act.execute s c sql) (Act.execute s c' sql) := by
  intro desk desk' hd
  obtain ⟨hresult, hnotes, hworld⟩ := h.execute hc hd.world sql
  have hduration := h.duration hc hd.world sql
  have hview : o.view (.executed c sql :: Event.notes (s.execute c sql desk.world).notes) =
      o.view (.executed c' sql :: Event.notes (s.execute c' sql desk'.world).notes) := by
    rw [view_cons, o.view_cons (.executed c' sql), view_notes, view_notes, hnotes]
    rfl
  unfold Act.execute Execution.run
  cases Policy.classify sql with
  | rejected reason => exact ⟨rfl, .ok rfl, hd.world, hd.held, hd.terminal⟩
  | admitted =>
    dsimp only
    rw [hresult.eq]
    cases (s.execute c' sql desk'.world).result with
    | error fault =>
      refine ⟨?_, .ok rfl, hworld, hd.held, hd.terminal⟩
      dsimp only
      rw [view_append, view_append, hview]
    | ok answer => exact ⟨hview, .ok (by rw [hduration]), hworld, hd.held, hd.terminal⟩

theorem release_alike (h : o.Discreet s e e') {c c' : κ} (hc : o.clients c c') (target : String) :
    o.Alike Eq (Act.release s target c) (Act.release s target c') := by
  intro desk desk' hd
  obtain ⟨hresult, hnotes, hworld⟩ := h.close hc hd.world
  refine ⟨?_, .ok rfl, hworld, hd.held, hd.terminal⟩
  unfold Act.release
  dsimp only
  rw [view_cons, o.view_cons (.closed c'), view_append, view_append, view_notes, view_notes, hnotes,
    hresult.eq]
  cases (s.close c' desk'.world).result <;> rfl

theorem disconnect_alike (h : o.Discreet s e e') : o.Alike Eq (disconnect s) (disconnect s) := by
  refine Alike.held.bind fun c c' hc => ?_
  cases hc with
  | none => exact Alike.done rfl
  | some hc => exact (Alike.hold .none).before fun _ => h.release_alike hc target

end Discreet

/-! ## Sessions -/

namespace Discreet

open Session

variable {s : Supplier κ σ} {e : Endpoint} {password : String}
  (h : o.Discreet s e (e.withPassword password))

include h

theorem client_alike : o.Alike (Agree o.clients) (Session.client s e)
    (Session.client s (e.withPassword password)) := by
  refine Alike.held.bind fun c c' hc => ?_
  cases hc with
  | some hc => exact Alike.done (.ok hc)
  | none =>
    refine h.connect_alike.bind fun r r' hr => ?_
    cases hr with
    | error fault => exact Alike.done (.error fault)
    | ok hc =>
      dsimp only
      rw [Endpoint.withPassword_display]
      exact (Alike.note _ _ _).before fun _ => (Alike.hold (.some hc)).before fun _ =>
        Alike.done (.ok hc)

theorem handleQuery_alike (sql : String) :
    o.Alike Eq (handleQuery s e sql) (handleQuery s (e.withPassword password) sql) := by
  unfold handleQuery
  cases Policy.classify sql with
  | rejected reason => exact (Alike.note _ _ _).before fun _ => Alike.say _
  | admitted =>
    refine h.client_alike.bind fun r r' hr => ?_
    cases hr with
    | error fault => exact Alike.say _
    | ok hc =>
      refine (h.execute_alike hc sql).before fun execution => ?_
      dsimp only
      split
      · exact (Alike.note _ _ _).before fun _ => h.disconnect_alike.before fun _ =>
          Alike.report execution
      · exact Alike.report execution

theorem handleLine_alike (line : List UInt8) :
    o.Alike Eq (handleLine s e line) (handleLine s (e.withPassword password) line) := by
  unfold handleLine
  cases Text.Utf8.decodeString line with
  | error malformed =>
    exact (Alike.note _ _ _).before fun _ => (Alike.say _).before fun _ =>
      (Alike.say _).before fun _ => Alike.done rfl
  | ok text =>
    dsimp only
    cases Command.ofLine text with
    | blank => exact Alike.done rfl
    | leave => exact (Alike.say _).before fun _ => Alike.done rfl
    | help => exact (Alike.say _).before fun _ => Alike.done rfl
    | query sql =>
      exact (h.handleQuery_alike sql).before fun _ => (Alike.say _).before fun _ => Alike.done rfl

theorem converse_alike (ending : Ending) (lines : List (List UInt8)) :
    o.Alike Eq (converse s e ending lines) (converse s (e.withPassword password) ending lines) := by
  have hprompt : o.Alike Eq (showPrompt (κ := κ) (σ := σ)) showPrompt :=
    (Alike.write _).before fun _ => Alike.flush
  induction lines with
  | nil =>
    refine hprompt.before fun _ => ?_
    cases ending with
    | failed detail => exact Alike.fail _
    | _ => exact (Alike.note _ _ _).before fun _ => (Alike.say _).before fun _ => Alike.say _
  | cons line rest ih =>
    refine hprompt.before fun _ => (h.handleLine_alike line).before fun next => ?_
    cases next with
    | stop => exact Alike.done rfl
    | goOn => exact ih

theorem runInteractive_alike (input : Input) :
    o.Alike Eq (runInteractive s e input) (runInteractive s (e.withPassword password) input) := by
  unfold runInteractive
  rw [Screen.banner_withPassword]
  exact ((Alike.say _).before fun _ => h.converse_alike _ _).andThen h.disconnect_alike

theorem runOnce_alike (sql : String) :
    o.Alike Eq (runOnce s e sql) (runOnce s (e.withPassword password) sql) := by
  unfold runOnce
  cases Policy.classify sql with
  | rejected reason =>
    exact (Alike.note _ _ _).before fun _ => (Alike.say _).before fun _ => Alike.fail _
  | admitted =>
    refine h.connect_alike.bind fun r r' hr => ?_
    cases hr with
    | error fault => exact (Alike.say _).before fun _ => Alike.fail fault
    | ok hc =>
      exact (h.execute_alike hc sql).before fun execution => (h.release_alike hc target).before
        fun _ => (Alike.report execution).before fun _ => Alike.settle execution

theorem run_alike (session : Session) :
    o.Alike Eq (session.run s e) (session.run s (e.withPassword password)) := by
  cases session with
  | once sql => exact h.runOnce_alike sql
  | interactive input => exact h.runInteractive_alike input

/-- Sessions in a row look the same, if they begin alike. -/
theorem runAll_sight (sessions : List (Session × Terminal)) {w w' : σ} {c c' : Option κ}
    (hw : o.worlds w w') (hc : Option.Rel o.clients c c') :
    (runAll s e sessions w c).map o.sight =
      (runAll s (e.withPassword password) sessions w' c').map o.sight := by
  induction sessions generalizing w w' c c' with
  | nil => rfl
  | cons first rest ih =>
    obtain ⟨session, terminal⟩ := first
    have hstage := h.run_alike session ⟨w, c, terminal⟩ ⟨w', c', terminal⟩ ⟨hw, hc, rfl⟩
    rw [runAll, runAll, List.map_cons, List.map_cons, hstage.sight,
      ih hstage.desk.world hstage.desk.held]

end Discreet

/-- An observer who sees every note, and takes nothing for the same that is not. -/
def sharp : Observer κ σ := ⟨fun _ => true, Eq, Eq⟩

/-- Even such an observer cannot tell the runs apart if connecting is the same in both. -/
theorem Discreet.of_connect {s : Supplier κ σ} {e e' : Endpoint}
    (h : ∀ w, s.connect e w = s.connect e' w) : sharp.Discreet s e e' where
  connect hw := by
    obtain rfl := hw
    rw [h]
    exact ⟨.refl _, rfl, rfl⟩
  execute hc hw _ := by
    obtain rfl := hc
    obtain rfl := hw
    exact ⟨.refl _, rfl, rfl⟩
  duration hc hw _ := by
    obtain rfl := hc
    obtain rfl := hw
    rfl
  close hc hw := by
    obtain rfl := hc
    obtain rfl := hw
    exact ⟨.refl _, rfl, rfl⟩

end Observer

theorem Server.Network.connect_withPassword (e : Endpoint) (password : String) (n : Network) :
    n.connect (e.withPassword password) = n.connect e := rfl

namespace Session

open Server

/-- The password never shows. Sessions with two endpoints that differ in the password alone look the
same, their texts, results and statuses included, for every supplier that is discreet about the
password, and whatever the terminals and the input. A failure to connect becomes the same fault for
both endpoints. So sessions with a server look the same in all, the notes included. -/
theorem password_unseen (e : Endpoint) (password : String) :
    (∀ {κ σ : Type} (o : Observer κ σ) (s : Supplier κ σ),
      o.Discreet s e (e.withPassword password) →
      ∀ (sessions : List (Session × Terminal)) (w w' : σ), o.worlds w w' →
        (runAll s e sessions w none).map o.sight =
          (runAll s (e.withPassword password) sessions w' none).map o.sight) ∧
    (∀ failure : Failure,
      failure.whileConnecting (e.withPassword password) = failure.whileConnecting e) ∧
    ∀ (sessions : List (Session × Terminal)) (n : Network),
      (runAll network e sessions n none).map Observer.sharp.sight =
        (runAll network (e.withPassword password) sessions n none).map Observer.sharp.sight := by
  have hnetwork : Observer.sharp.Discreet network e (e.withPassword password) :=
    .of_connect fun n => (n.connect_withPassword e password).symm
  exact ⟨fun o s h sessions w w' hw => h.runAll_sight sessions hw .none,
    fun failure => failure.whileConnecting_withPassword e password,
    fun sessions n => hnetwork.runAll_sight sessions rfl .none⟩

/-- A supplier whose clients keep their endpoint, with its password, and whose state is the list of
all endpoints that it was asked for. It refuses the first one. -/
def retentive : Supplier Endpoint (List Endpoint) where
  connect e asked :=
    ⟨if asked.isEmpty then .error (Failure.connectionRefused.whileConnecting e) else .ok e,
      [⟨.trace, "driver", "password " ++ e.password⟩], e :: asked⟩
  execute e _ asked := ⟨.ok (.table [⟨"CURRENT_USER()", "VARCHAR"⟩] [[.string e.user]]), [], asked⟩
  close _ asked := ⟨.ok (), [], asked⟩
  duration _ _ _ := .zero

/-- An observer who sees no traces, and knows endpoints up to their password. -/
def outsider : Observer Endpoint (List Endpoint) where
  sees note := note.level ≠ .trace
  clients e e' := e.withPassword "" = e'.withPassword ""
  worlds asked asked' := asked.map (·.withPassword "") = asked'.map (·.withPassword "")

theorem outsider_discreet (e : Endpoint) (password : String) :
    outsider.Discreet retentive e (e.withPassword password) where
  connect {asked asked'} hw := by
    have hworld : outsider.worlds (e :: asked) (e.withPassword password :: asked') :=
      congrArg (e.withPassword "" :: ·) hw
    have hempty : asked.isEmpty = asked'.isEmpty := by
      rw [← List.isEmpty_map (f := (·.withPassword "")), hw, List.isEmpty_map]
    refine ⟨?_, rfl, hworld⟩
    unfold retentive
    dsimp only
    rw [hempty, Failure.whileConnecting_withPassword]
    by_cases h : asked'.isEmpty = true
    · rw [if_pos h, if_pos h]
      exact .error _
    · rw [if_neg h, if_neg h]
      exact .ok rfl
  execute {c c' _ _} hc hw _ := by
    obtain ⟨-, -, huser, -⟩ := Endpoint.mk.inj hc
    refine ⟨.ok ?_, rfl, hw⟩
    rw [huser]
  duration _ _ _ := rfl
  close _ hw := ⟨.refl _, rfl, hw⟩

theorem retentive_unseen :
    let secret := Endpoint.standard.withPassword "secret"
    let sessions := [(Session.once "SELECT 1", Terminal.unlimited),
      (.interactive ⟨[Text.Utf8.encodeString "SELECT CURRENT_USER()\n"], .exhausted⟩, .unlimited)]
    outsider.Discreet retentive .standard secret ∧
      (runAll retentive .standard sessions [] none).map (·.desk.world) ≠
        (runAll retentive secret sessions [] none).map (·.desk.world) ∧
      (runAll retentive .standard sessions [] none).map outsider.sight =
        (runAll retentive secret sessions [] none).map outsider.sight := by
  intro secret sessions
  have hdiscreet := outsider_discreet .standard "secret"
  refine ⟨hdiscreet, by decide, ?_⟩
  exact (password_unseen .standard "secret").1 outsider retentive hdiscreet sessions [] [] rfl

end Session

end SqlGuard
