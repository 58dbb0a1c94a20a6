import SqlGuard.Session.Act

/-!
# Outlines of acts

Most of what matters about a session can be told from its requests and its
prompts alone. An `Outline` keeps these `marks` of a stage, and the `Standing`
it leads to: the state behind the supplier and the client that is kept open.
Terminals do not occur in it. They only decide how far a session comes.

Three kinds of acts compose. A `Still` act makes no request at all. An act that
`Does` something never touches the terminal, and its result and outline are a
function of the standing. An act that `Plays` succeeds at a terminal that never
fails, and what it shows there is a function of the standing as well.
-/
namespace SqlGuard

variable {κ σ α β γ : Type}

/-- A request, or the flush of a prompt. -/
def Event.isMark : Event κ → Bool
  | connected _ | refused _ | executed .. | closed _ | flushed => true
  | wrote _ | noted _ => false

theorem Event.isMark_of_isRequest {ev : Event κ} (h : ev.isRequest = true) : ev.isMark = true := by
  cases ev <;> simp_all [isRequest, isMark]

/-- How an attempt to connect shows. -/
def Event.attempt : Except Fault κ → Event κ
  | .ok client => connected client
  | .error fault => refused fault

def marksOf (events : List (Event κ)) : List (Event κ) := events.filter Event.isMark

@[simp] theorem marksOf_nil : marksOf ([] : List (Event κ)) = [] := rfl

@[simp] theorem marksOf_append (es fs : List (Event κ)) :
    marksOf (es ++ fs) = marksOf es ++ marksOf fs := List.filter_append ..

theorem marksOf_cons (ev : Event κ) (es : List (Event κ)) :
    marksOf (ev :: es) = if ev.isMark then ev :: marksOf es else marksOf es :=
  List.filter_cons

@[simp] theorem marksOf_notes (ns : List Note) :
    marksOf (Event.notes ns : List (Event κ)) = [] := by
  simp [marksOf, Event.notes, Event.isMark, List.filter_eq_nil_iff]

/-- A mark among events is one among their marks, with the marks before and after it. -/
theorem marksOf_split {es pre post : List (Event κ)} {ev : Event κ} (h : es = pre ++ ev :: post)
    (hm : ev.isMark = true) : marksOf es = marksOf pre ++ ev :: marksOf post := by
  rw [h, marksOf_append, marksOf_cons, if_pos hm]

/-- What the terminal took in some events. -/
def outputOf (events : List (Event κ)) : List UInt8 := events.flatMap Event.octets

theorem outputOf_append (es fs : List (Event κ)) :
    outputOf (es ++ fs) = outputOf es ++ outputOf fs := List.flatMap_append

@[simp] theorem wrote_not_mem_notes (ns : List Note) (octets : List UInt8) :
    .wrote octets ∉ (Event.notes ns : List (Event κ)) := by
  simp [Event.notes]

/-- The state behind the supplier, and the client that is kept open. -/
structure Standing (κ σ : Type) where
  world : σ
  held : Option κ

/-- The marks of a part of a session, and the standing it leads to. -/
structure Outline (κ σ : Type) where
  marks : List (Event κ)
  standing : Standing κ σ

def Desk.standing (desk : Desk κ σ) : Standing κ σ := ⟨desk.world, desk.held⟩

def Stage.outline (stage : Stage κ σ α) : Outline κ σ :=
  ⟨marksOf stage.events, stage.desk.standing⟩

namespace Outline

/-- Nothing happens. -/
def still (st : Standing κ σ) : Outline κ σ := ⟨[], st⟩

/-- One part of a session after another. -/
def next (o : Outline κ σ) (f : Standing κ σ → Outline κ σ) : Outline κ σ :=
  ⟨o.marks ++ (f o.standing).marks, (f o.standing).standing⟩

/-- A mark before everything else. -/
def mark (ev : Event κ) (o : Outline κ σ) : Outline κ σ := ⟨ev :: o.marks, o.standing⟩

@[simp] theorem still_next (st : Standing κ σ) (f : Standing κ σ → Outline κ σ) :
    (still st).next f = f st := rfl

@[simp] theorem next_still (o : Outline κ σ) : o.next still = o := by
  simp [next, still]

theorem next_assoc (o : Outline κ σ) (f g : Standing κ σ → Outline κ σ) :
    (o.next f).next g = o.next fun st => (f st).next g := by
  simp [next]

end Outline

/-! ## Acts -/

/-- The stage with some events before it. -/
def Stage.after (stage : Stage κ σ α) (events : List (Event κ)) : Stage κ σ α :=
  { stage with events := events ++ stage.events }

theorem Stage.after_outline (stage : Stage κ σ α) (events : List (Event κ)) :
    (stage.after events).outline =
      ⟨marksOf events ++ stage.outline.marks, stage.outline.standing⟩ := by
  simp [outline, after]

namespace Act

open Outline

theorem bind_ok {act : Act κ σ α} {f : α → Act κ σ β} {desk : Desk κ σ} {a : α}
    (h : (act desk).result = .ok a) :
    (act >>= f) desk = (f a (act desk).desk).after (act desk).events := by
  show act.next f desk = _
  simp only [Act.next, h, Stage.after]

theorem bind_error {act : Act κ σ α} {f : α → Act κ σ β} {desk : Desk κ σ} {fault : Fault}
    (h : (act desk).result = .error fault) :
    (act >>= f) desk = ⟨(act desk).events, .error fault, (act desk).desk⟩ := by
  show act.next f desk = _
  simp only [Act.next, h]

theorem bind_outline {act : Act κ σ α} {f : α → Act κ σ β} {desk : Desk κ σ} {a : α}
    (h : (act desk).result = .ok a) :
    ((act >>= f) desk).outline =
      (act desk).outline.next fun _ => (f a (act desk).desk).outline := by
  rw [bind_ok h, Stage.after_outline]
  rfl

theorem done_bind (a : α) (f : α → Act κ σ β) : (done a >>= f) = f a := rfl

theorem bind_done (act : Act κ σ Unit) : (act >>= fun _ => done ()) = act := by
  funext desk
  cases h : (act desk).result with
  | error fault => rw [bind_error h, ← h]
  | ok _ =>
    rw [bind_ok h]
    show Stage.mk ((act desk).events ++ []) (.ok ()) (act desk).desk = act desk
    rw [List.append_nil, ← h]

theorem bind_bind (act : Act κ σ α) (f : α → Act κ σ β) (g : β → Act κ σ γ) :
    act >>= f >>= g = act >>= fun a => f a >>= g := by
  funext desk
  cases h : (act desk).result with
  | error fault => rw [bind_error h, bind_error (by rw [bind_error h]), bind_error h]
  | ok a =>
    rw [bind_ok h]
    cases h' : (f a (act desk).desk).result with
    | error fault =>
      have hr : ((act >>= f) desk).result = .error fault := by rw [bind_ok h]; exact h'
      rw [bind_error hr, bind_error h', bind_ok h]; rfl
    | ok b =>
      have hr : ((act >>= f) desk).result = .ok b := by rw [bind_ok h]; exact h'
      rw [bind_ok hr, bind_ok h', bind_ok h]
      simp [Stage.after]

/-! ### Acts that make no request -/

/-- The act makes no request, flushes nothing and leaves the open client alone. -/
def Still (act : Act κ σ α) : Prop := ∀ desk, (act desk).outline = still desk.standing

namespace Still

theorem standing {act : Act κ σ α} (h : Still act) (desk : Desk κ σ) :
    (act desk).desk.standing = desk.standing := congrArg Outline.standing (h desk)

theorem marks {act : Act κ σ α} (h : Still act) (desk : Desk κ σ) :
    marksOf (act desk).events = [] := congrArg Outline.marks (h desk)

theorem bind {act : Act κ σ α} {f : α → Act κ σ β} (h : Still act) (hf : ∀ a, Still (f a)) :
    Still (act >>= f) := by
  intro desk
  cases hr : (act desk).result with
  | error fault => rw [bind_error hr]; exact h desk
  | ok a => rw [bind_outline hr, h desk, still_next, hf a, h.standing]

theorem done (a : α) : Still (Act.done a : Act κ σ α) := fun _ => rfl

theorem fail (fault : Fault) : Still (Act.fail fault : Act κ σ α) := fun _ => rfl

theorem note (level : Level) (target text : String) :
    Still (Act.note level target text : Act κ σ Unit) := fun _ => rfl

theorem write (text : String) : Still (Act.write text : Act κ σ Unit) := fun _ => rfl

theorem say (text : String) : Still (Act.say text : Act κ σ Unit) := fun _ => rfl

end Still

/-! ### Acts that leave the terminal alone -/

/-- The act never fails, does not touch the terminal, and has the result and the outline that
`f` gives. -/
structure Does (act : Act κ σ α) (f : Standing κ σ → α × Outline κ σ) : Prop where
  result : ∀ desk, (act desk).result = .ok (f desk.standing).1
  outline : ∀ desk, (act desk).outline = (f desk.standing).2
  terminal : ∀ desk, (act desk).desk.terminal = desk.terminal
  silent : ∀ desk octets, .wrote octets ∉ (act desk).events

namespace Does

variable {act : Act κ σ α} {f : Standing κ σ → α × Outline κ σ}

theorem output (h : Does act f) (desk : Desk κ σ) : outputOf (act desk).events = [] := by
  refine List.flatMap_eq_nil_iff.mpr fun ev hev => ?_
  cases ev with
  | wrote octets => exact absurd hev (h.silent desk octets)
  | _ => rfl

theorem standing (h : Does act f) (desk : Desk κ σ) :
    (act desk).desk.standing = (f desk.standing).2.standing :=
  congrArg Outline.standing (h.outline desk)

theorem congr {g : Standing κ σ → α × Outline κ σ} (h : Does act f) (hfg : ∀ st, f st = g st) :
    Does act g := funext hfg ▸ h

theorem done (a : α) : Does (Act.done a : Act κ σ α) fun st => (a, still st) :=
  ⟨fun _ => rfl, fun _ => rfl, fun _ => rfl, fun _ _ => List.not_mem_nil⟩

theorem note (level : Level) (target text : String) :
    Does (Act.note level target text : Act κ σ Unit) fun st => ((), still st) :=
  ⟨fun _ => rfl, fun _ => rfl, fun _ => rfl, fun _ _ => by simp [Act.note, Act.event]⟩

/-- An act behind one that leaves the terminal alone. -/
theorem bind_outline {g : α → Act κ σ β} (h : Does act f) (desk : Desk κ σ) :
    ((act >>= g) desk).outline =
      (f desk.standing).2.next fun _ => (g (f desk.standing).1 (act desk).desk).outline := by
  rw [Act.bind_outline (h.result desk), h.outline]

theorem bind {g : α → Act κ σ β} {k : α → Standing κ σ → β × Outline κ σ} (h : Does act f)
    (hg : ∀ a, Does (g a) (k a)) :
    Does (act >>= g) fun st =>
      ((k (f st).1 (f st).2.standing).1, (f st).2.next fun st' => (k (f st).1 st').2) where
  result desk := by
    rw [bind_ok (h.result desk), Stage.after, (hg _).result, h.standing]
  outline desk := by
    rw [h.bind_outline, (hg _).outline, h.standing]
    rfl
  terminal desk := by
    rw [bind_ok (h.result desk), Stage.after, (hg _).terminal, h.terminal]
  silent desk octets := by
    rw [bind_ok (h.result desk), Stage.after, List.mem_append, not_or]
    exact ⟨h.silent desk octets, (hg _).silent _ octets⟩

end Does

/-! ### Acts at a terminal that never fails -/

/-- At a terminal that never fails the act succeeds, with the result and the outline that `f`
gives, and shows what `out` gives. -/
structure Plays (act : Act κ σ α) (f : Standing κ σ → α × Outline κ σ)
    (out : Standing κ σ → List UInt8) : Prop where
  result : ∀ desk, desk.terminal = .unlimited → (act desk).result = .ok (f desk.standing).1
  outline : ∀ desk, desk.terminal = .unlimited → (act desk).outline = (f desk.standing).2
  terminal : ∀ desk, desk.terminal = .unlimited → (act desk).desk.terminal = .unlimited
  output : ∀ desk, desk.terminal = .unlimited → outputOf (act desk).events = out desk.standing

theorem Does.plays {act : Act κ σ α} {f : Standing κ σ → α × Outline κ σ} (h : Does act f) :
    Plays act f fun _ => [] :=
  ⟨fun desk _ => h.result desk, fun desk _ => h.outline desk,
    fun desk ht => (h.terminal desk).trans ht, fun desk _ => h.output desk⟩

namespace Plays

variable {act : Act κ σ α} {f : Standing κ σ → α × Outline κ σ} {out : Standing κ σ → List UInt8}

theorem standing (h : Plays act f out) {desk : Desk κ σ} (ht : desk.terminal = .unlimited) :
    (act desk).desk.standing = (f desk.standing).2.standing :=
  congrArg Outline.standing (h.outline desk ht)

theorem congr {g : Standing κ σ → α × Outline κ σ} {out' : Standing κ σ → List UInt8}
    (h : Plays act f out) (hf : ∀ st, f st = g st) (ho : ∀ st, out st = out' st) :
    Plays act g out' := funext hf ▸ funext ho ▸ h

theorem bind {g : α → Act κ σ β} {k : α → Standing κ σ → β × Outline κ σ}
    {out' : α → Standing κ σ → List UInt8} (h : Plays act f out)
    (hg : ∀ a, Plays (g a) (k a) (out' a)) :
    Plays (act >>= g)
      (fun st => ((k (f st).1 (f st).2.standing).1, (f st).2.next fun st' => (k (f st).1 st').2))
      fun st => out st ++ out' (f st).1 (f st).2.standing where
  result desk ht := by
    rw [bind_ok (h.result desk ht), Stage.after, (hg _).result _ (h.terminal desk ht),
      h.standing ht]
  outline desk ht := by
    rw [bind_outline (h.result desk ht), h.outline desk ht,
      (hg _).outline _ (h.terminal desk ht), h.standing ht]
    rfl
  terminal desk ht := by
    rw [bind_ok (h.result desk ht), Stage.after, (hg _).terminal _ (h.terminal desk ht)]
  output desk ht := by
    rw [bind_ok (h.result desk ht), Stage.after, outputOf_append, h.output desk ht,
      (hg _).output _ (h.terminal desk ht), h.standing ht]

theorem write (text : String) : Plays (Act.write text : Act κ σ Unit) (fun st => ((), still st))
    fun _ => Text.Utf8.encodeString text where
  result := by rintro ⟨world, held, t⟩ rfl; rfl
  outline := by rintro ⟨world, held, t⟩ rfl; rfl
  terminal := by rintro ⟨world, held, t⟩ rfl; rfl
  output := by
    rintro ⟨world, held, t⟩ rfl
    exact List.append_nil _

theorem flush : Plays (Act.flush : Act κ σ Unit) (fun st => ((), ⟨[.flushed], st⟩))
    fun _ => [] where
  result := by rintro ⟨world, held, t⟩ rfl; rfl
  outline := by rintro ⟨world, held, t⟩ rfl; rfl
  terminal := by rintro ⟨world, held, t⟩ rfl; rfl
  output := by rintro ⟨world, held, t⟩ rfl; rfl

end Plays

end Act

end SqlGuard
