import SqlGuard.Profile.Cursor

/-!
# What readers take

Positions matter for the place of a fault only. `Yields r s a t` says that the
reader takes the octets `s` down to `t` and gives `a`, wherever they stand, and
`Fails r s` that it gives nothing on them. A reader that goes on with another one
yields what that one yields on the rest (`Yields.bind`), so what a reader made of
parts yields follows from what its parts yield.
-/
namespace SqlGuard.Profile.Reader

variable {ε α β : Type} {r : Reader ε α} {f : α → Reader ε β} {a : α} {b : β}
variable {s t u front : List UInt8}

/-- Takes octets down to the rest and gives a value. -/
def Yields (r : Reader ε α) (s : List UInt8) (a : α) (t : List UInt8) : Prop :=
  ∀ p, ∃ p', r ⟨s, p⟩ = .ok (a, ⟨t, p'⟩)

/-- Gives no value. -/
def Fails (r : Reader ε α) (s : List UInt8) : Prop := ∀ p, ∃ fault, r ⟨s, p⟩ = .error fault

/-- Takes octets down to the rest and gives the value of a result, or fails if it is an error. -/
def Ends {δ : Type} (r : Reader ε α) (s : List UInt8) (t : List UInt8) : Except δ α → Prop
  | .ok a => Yields r s a t
  | .error _ => Fails r s

/-! ## One reader after the other -/

theorem yields_pure (a : α) (s : List UInt8) : Yields (pure a : Reader ε α) s a s :=
  fun p => ⟨p, rfl⟩

theorem Yields.bind (h : Yields r s a t) (hf : Yields (f a) t b u) : Yields (r >>= f) s b u := by
  intro p
  obtain ⟨q, hq⟩ := h p
  obtain ⟨q', hq'⟩ := hf q
  refine ⟨q', ?_⟩
  show (r ⟨s, p⟩ >>= fun result => f result.1 result.2) = _
  rw [hq]
  exact hq'

theorem Yields.bind_fails (h : Yields r s a t) (hf : Fails (f a) t) : Fails (r >>= f) s := by
  intro p
  obtain ⟨q, hq⟩ := h p
  obtain ⟨fault, hfault⟩ := hf q
  refine ⟨fault, ?_⟩
  show (r ⟨s, p⟩ >>= fun result => f result.1 result.2) = _
  rw [hq]
  exact hfault

theorem Yields.bind_ends {δ : Type} {result : Except δ β} (h : Yields r s a t)
    (hf : Ends (f a) t u result) : Ends (r >>= f) s u result := by
  cases result with
  | ok b => exact h.bind hf
  | error cause => exact h.bind_fails hf

theorem fails_bind (h : Fails r s) : Fails (r >>= f) s := by
  intro p
  obtain ⟨fault, hfault⟩ := h p
  refine ⟨fault, ?_⟩
  show (r ⟨s, p⟩ >>= fun result => f result.1 result.2) = _
  rw [hfault]
  rfl

/-- The result of a reader stays if nothing but more octets are taken behind it. -/
theorem Ends.bind {δ : Type} {result : Except δ α} {f : α → Reader ε α} (h : Ends r s t result)
    (hf : ∀ a, Yields (f a) t a u) : Ends (r >>= f) s u result := by
  cases result with
  | ok a => exact Yields.bind h (hf a)
  | error cause => exact fails_bind h

theorem fails_here (cause : ε) (s : List UInt8) : Fails (failHere cause : Reader ε α) s :=
  fun p => ⟨(cause, p), rfl⟩

theorem Yields.discard (h : Yields r s a t) : Yields (discard r) s () t := by
  intro p
  obtain ⟨q, hq⟩ := h p
  refine ⟨q, ?_⟩
  show (r ⟨s, p⟩ >>= fun result => pure ((), result.2)) = _
  rw [hq]
  rfl

/-! ## Octets -/

theorem yields_peek (s : List UInt8) : Yields (peek : Reader ε _) s s.head? s :=
  fun p => ⟨p, rfl⟩

theorem yields_take (c : UInt8) (s : List UInt8) : Yields (take : Reader ε _) (c :: s) (some c) s :=
  fun p => ⟨p.after c, rfl⟩

theorem yields_remaining (s : List UInt8) : Yields (remaining : Reader ε _) s s.length s :=
  fun p => ⟨p, rfl⟩

/-- Octets that fit are taken, whatever is taken behind them. -/
theorem span_append {fits : UInt8 → Bool} (h : ∀ c ∈ front, fits c = true) (s : List UInt8)
    (p : Position) :
    ∃ q, span fits p (front ++ s) = (front ++ (span fits q s).1, (span fits q s).2) := by
  induction front generalizing p with
  | nil => exact ⟨p, rfl⟩
  | cons c front ih =>
    obtain ⟨q, hq⟩ := ih (fun d hd => h d (by simp [hd])) (p.after c)
    refine ⟨q, ?_⟩
    rw [List.cons_append, span, if_pos (h c (by simp)), hq]
    rfl

theorem yields_takeWhile (front : List UInt8) {fits : UInt8 → Bool}
    (h : ∀ c ∈ front, fits c = true) (hs : ∀ c ∈ s.head?, fits c = false) :
    Yields (takeWhile fits : Reader ε _) (front ++ s) front s := by
  intro p
  obtain ⟨q, hq⟩ := span_append h s p
  have hnone : span fits q s = ([], ⟨s, q⟩) := by
    cases s with
    | nil => rfl
    | cons c s =>
      rw [span, if_neg]
      rw [hs c rfl]
      decide
  refine ⟨q, ?_⟩
  rw [takeWhile, hq, hnone, List.append_nil]

theorem yields_takeCount (taken s : List UInt8) :
    Yields (takeCount taken.length : Reader ε _) (taken ++ s) taken s := by
  induction taken with
  | nil => exact yields_pure _ _
  | cons c taken ih => exact (yields_take c _).bind (ih.bind (yields_pure _ _))

end SqlGuard.Profile.Reader
