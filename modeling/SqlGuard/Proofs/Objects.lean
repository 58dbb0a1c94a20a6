import SqlGuard.Proofs.ObjectValues

/-!
# Objects

`Object` says which documents are an object that names entries, with blanks
anywhere between its parts.

* `ends_readDocument`: such a document is read as the endpoint of its settings, or
  not at all if they have none.
* `exists_object`: all entries can be written.
-/
namespace SqlGuard.Profile.Json

open Text Utf8 Reader

/-! ## Objects as they are written -/

/-- A name and its value. -/
inductive Member : List Char → Entry → Prop
  | mk {k v b b' : List Char} {name : String} {value : Plain} (hk : Quoted k name) (hb : Blanks b)
    (hb' : Blanks b') (hv : Value v value) : Member (k ++ (b ++ ':' :: (b' ++ v))) (name, value)

/-- What follows the opening brace of an object, or else a value in it. -/
inductive Members : Bool → List Char → List Entry → Prop
  | close {first : Bool} {b : List Char} (hb : Blanks b) : Members first (b ++ ['\x7d']) []
  | first {b w rest : List Char} {entry : Entry} {entries : List Entry} (hb : Blanks b)
    (hw : Member w entry) (h : Members false rest entries) :
    Members true (b ++ (w ++ rest)) (entry :: entries)
  | next {b b' w rest : List Char} {entry : Entry} {entries : List Entry} (hb : Blanks b)
    (hb' : Blanks b') (hw : Member w entry) (h : Members false rest entries) :
    Members false (b ++ ',' :: (b' ++ (w ++ rest))) (entry :: entries)

/-- A document that is an object. -/
inductive Object : List Char → List Entry → Prop
  | mk {b w b' : List Char} {entries : List Entry} (hb : Blanks b) (h : Members true w entries)
    (hb' : Blanks b') : Object (b ++ '\x7b' :: (w ++ b')) entries

/-! ## Members of an object -/

section Members

variable {w : List Char} {entry : Entry} {entries : List Entry} {draft : Draft} {first : Bool}
variable {s t : List UInt8} {fuel : Nat}

/-- What is left of an object begins with an octet that ends a number. -/
theorem Members.ending {first : Bool} (h : Members first w entries) (hf : first = false)
    (s : List UInt8) : ∃ o t, encode w ++ s = o :: t ∧ Ending o := by
  have hblank {b : List Char} {o : UInt8} {t : List UInt8} (hb : Blanks b) (ho : Ending o) :
      ∃ o' t', encode b ++ o :: t = o' :: t' ∧ Ending o' := by
    cases b with
    | nil => exact ⟨o, t, rfl, ho⟩
    | cons c b =>
      have hc := hb c (by simp)
      simp only [List.mem_cons, List.not_mem_nil, or_false] at hc
      rcases hc with rfl | rfl | rfl | rfl <;> exact ⟨_, _, rfl, by decide⟩
  cases h with
  | close hb =>
    rw [encode_append, List.append_assoc]
    exact hblank hb (by decide)
  | first => cases hf
  | next hb =>
    rw [encode_append, encode_comma, List.append_assoc]
    exact hblank hb (by decide)

/-- The endpoint of a draft that takes the settings of entries. -/
def outcome (draft : Draft) (entries : List Entry) : Except Unfit Endpoint := do
  let d ← (settings entries).foldlM Draft.add draft
  d.endpoint

theorem Member.length_pos (h : Member w entry) : 0 < w.length := by
  cases h
  simp only [List.length_append, List.length_cons]
  omega

theorem outcome_cons (draft : Draft) (name : String) (v : Plain) (entries : List Entry) :
    outcome draft ((name, v) :: entries) = draft.add (name, v.setting) >>= (outcome · entries) := by
  show ((name, v.setting) :: settings entries).foldlM Draft.add draft >>= _ = _
  rw [List.foldlM_cons, bind_assoc]
  rfl

/-- A member goes to the draft, if it has a meaning. -/
theorem ends_readObject_member (hw : Member w entry) {o : UInt8} (ho : Ending o)
    (hname : ∀ u, Yields (anotherName first) (s ++ quote :: u) true (quote :: u))
    (hrest : ∀ d, Ends (readObject fuel false d) (o :: t) u (outcome d entries)) :
    Ends (readObject (fuel + 1) first draft) (s ++ (encode w ++ o :: t)) u
      (outcome draft (entry :: entries)) := by
  cases hw with | @mk k v b b' name value hk hb hb' hv => ?_
  rw [encode_append, encode_append, encode_colon, encode_append, List.append_assoc,
    List.append_assoc, List.cons_append, List.append_assoc, outcome_cons]
  obtain ⟨u, hu⟩ := hk.head
  have hread := yields_readQuoted hk (encode b ++ colon :: (encode b' ++ (encode v ++ o :: t)))
  rw [hu] at hread ⊢
  refine (hname _).bind_ends (hread.bind_ends ?_)
  cases hfield : Field.ofName name with
  | none =>
    have hadd : draft.add (name, value.setting) = .ok draft := by rw [Draft.add, hfield]
    rw [hadd]
    exact (yields_readColon hb _).bind_ends ((yields_remaining _).bind_ends
      ((yields_skipValue hb' hv ho _).bind_ends (hrest draft)))
  | some field =>
    cases hhas : draft.has field with
    | true =>
      have hadd : draft.add (name, value.setting) = .error (.duplicate field) := by
        rw [Draft.add, hfield]
        exact if_pos hhas
      have hend : Yields takeObjectEnd (encode b ++ colon :: (encode b' ++ (encode v ++ o :: t))) ()
          (colon :: (encode b' ++ (encode v ++ o :: t))) :=
        (yields_peekToken_cons hb rfl).bind (yields_pure _ _)
      rw [hadd]
      show Fails (if draft.has field = true then _ else _ : Read Endpoint) _
      rw [if_pos hhas]
      exact hend.bind_fails (fails_here _ _)
    | false =>
      have hadd : draft.add (name, value.setting) = draft.set field value.setting := by
        rw [Draft.add, hfield]
        exact if_neg (by rw [hhas]; decide)
      rw [hadd]
      show Ends (if draft.has field = true then _ else _ : Read Endpoint) _ _ _
      rw [if_neg (by rw [hhas]; decide)]
      refine (yields_readColon hb _).bind_ends ((yields_readSetting hb' hv ho).bind_ends ?_)
      cases draft.set field value.setting with
      | error cause => exact fails_bind (fails_here _ _)
      | ok d => exact (yields_pure d _).bind_ends (hrest d)

theorem ends_readObject (h : Members first w entries) (hfuel : entries.length < fuel)
    (s : List UInt8) :
    Ends (readObject fuel first draft) (encode w ++ s) s (outcome draft entries) := by
  induction h generalizing fuel draft with
  | @close first b hb =>
    obtain ⟨fuel, rfl⟩ := Nat.exists_eq_succ_of_ne_zero (Nat.ne_zero_of_lt hfuel)
    rw [encode_append, List.append_assoc]
    refine (yields_anotherName_close first hb s).bind_ends
      ((yields_takeObjectEnd s).bind_ends ?_)
    show Ends (orUnfit draft.endpoint) s s draft.endpoint
    cases draft.endpoint with
    | error cause => exact fails_here _ _
    | ok e => exact yields_pure e s
  | @first b w rest entry entries hb hw h ih =>
    obtain ⟨fuel, rfl⟩ := Nat.exists_eq_succ_of_ne_zero (Nat.ne_zero_of_lt hfuel)
    obtain ⟨o, t, ht, ho⟩ := h.ending rfl s
    rw [encode_append, encode_append, List.append_assoc, List.append_assoc, ht]
    refine ends_readObject_member hw ho (yields_anotherName_first hb) fun d => ?_
    rw [← ht]
    exact ih (Nat.lt_of_succ_lt_succ hfuel)
  | @next b b' w rest entry entries hb hb' hw h ih =>
    obtain ⟨fuel, rfl⟩ := Nat.exists_eq_succ_of_ne_zero (Nat.ne_zero_of_lt hfuel)
    obtain ⟨o, t, ht, ho⟩ := h.ending rfl s
    have hfront : encode (b ++ ',' :: (b' ++ (w ++ rest))) ++ s =
        (encode b ++ comma :: encode b') ++ (encode w ++ o :: t) := by
      simp only [encode_append, encode_comma, List.append_assoc, List.cons_append, ht]
    rw [hfront]
    refine ends_readObject_member hw ho (fun u => ?_) fun d => ?_
    · rw [List.append_assoc]
      exact yields_anotherName_next hb hb' u
    · rw [← ht]
      exact ih (Nat.lt_of_succ_lt_succ hfuel)

theorem Members.length_le (h : Members first w entries) : entries.length ≤ w.length := by
  induction h with
  | close hb => exact Nat.zero_le _
  | first hb hw h ih =>
    have := hw.length_pos
    simp only [List.length_cons, List.length_append]
    omega
  | next hb hb' hw h ih =>
    simp only [List.length_cons, List.length_append]
    omega

end Members

/-! ## Documents -/

/-- An object is read as the endpoint of its settings, or not at all if they have none. -/
theorem ends_readDocument {document : List Char} {entries : List Entry}
    (h : Object document entries) :
    Ends readDocument (encode document) [] (ofEntries (settings entries)) := by
  cases h with
  | @mk b w b' entries hb h hb' =>
    have hend : Yields peekToken (encode b') none [] := by
      have := yields_peekToken (s := []) hb' (by simp)
      rwa [List.append_nil] at this
    have hfuel : entries.length < (encode w ++ encode b').length + 1 := by
      have := h.length_le
      have := length_le_encode w
      rw [List.length_append]
      omega
    have hread : Ends (readObject _ true .empty) _ _ (outcome .empty entries) :=
      ends_readObject h hfuel (encode b')
    rw [encode_append, encode_open, encode_append]
    exact (yields_peekValue hb rfl).bind_ends ((yields_skip openObject _).bind_ends
      ((yields_remaining _).bind_ends (hread.bind fun e => hend.bind (yields_pure e []))))

theorem readJson_object {document : List Char} {entries : List Entry} (h : Object document entries)
    (e : Endpoint) :
    readJson (encode document) = .ok e ↔ ofEntries (settings entries) = .ok e := by
  have hend := ends_readDocument h
  unfold readJson
  cases hresult : ofEntries (settings entries) with
  | error cause =>
    rw [hresult] at hend
    obtain ⟨fault, hfault⟩ := hend .start
    rw [hfault]
    exact ⟨(nomatch ·), (nomatch ·)⟩
  | ok e' =>
    rw [hresult] at hend
    obtain ⟨p, hp⟩ := hend .start
    rw [hp, Except.ok.injEq, Except.ok.injEq]

/-! ## Every list of entries can be written -/

theorem exists_members (first : Bool) (entries : List Entry) : ∃ w, Members first w entries := by
  have hblank : Blanks [] := by simp [Blanks]
  induction entries generalizing first with
  | nil => exact ⟨_, .close hblank⟩
  | cons entry entries ih =>
    obtain ⟨rest, hrest⟩ := ih false
    obtain ⟨k, hk⟩ := exists_quoted entry.1
    obtain ⟨v, hv⟩ := exists_value entry.2
    have hmember := Member.mk hk hblank hblank hv
    cases first with
    | true => exact ⟨_, .first hblank hmember hrest⟩
    | false => exact ⟨_, .next hblank hblank hmember hrest⟩

theorem exists_object (entries : List Entry) : ∃ document, Object document entries := by
  obtain ⟨w, hw⟩ := exists_members true entries
  have hblank : Blanks [] := by simp [Blanks]
  exact ⟨_, .mk hblank hw hblank⟩

end SqlGuard.Profile.Json
