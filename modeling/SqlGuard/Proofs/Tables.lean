import Mathlib.Data.List.TakeWhile
import SqlGuard.Profile.Load
import SqlGuard.Proofs.TableValues

/-!
# Tables

`Table` says which documents are a table that names entries: a line for each of
them, with lines between them that are blank or hold a comment. What has been read
is a table with the settings of the lines so far. A line with a new name adds its
setting behind them (`statement_line`).

* `read_table`: a table is read as the endpoint of its settings, or not at all if
  they have none.
* `exists_table`: all entries can be written.
-/
namespace SqlGuard.Profile.Toml

/-! ## Tables as they are written -/

/-- May stand in a name without quotes. -/
def Bare (c : Char) : Prop := c.isAlphanum = true ∨ c = '_' ∨ c = '-'

instance : DecidablePred Bare := fun _ => inferInstanceAs (Decidable (_ ∨ _))

/-- The name of an entry, on its own or between quotes. -/
inductive Name : List Char → String → Prop
  | bare {w : List Char} (hne : w ≠ []) (h : ∀ c ∈ w, Bare c) : Name w (String.ofList w)
  | quoted {w text : List Char} (h : Inline w text) : Name w (String.ofList text)

inductive Comment : List Char → Prop
  | none : Comment []
  | some {w : List Char} (h : ∀ c ∈ w, c = '\t' ∨ (0x20 ≤ c.toNat ∧ c.toNat ≠ 0x7F)) :
    Comment ('#' :: w)

/-- A line without its break, and the entry in it. -/
inductive Line : List Char → Option Entry → Prop
  | blank {b c : List Char} (hb : Blanks b) (hc : Comment c) : Line (b ++ c) none
  | entry {b k b₁ b₂ v b₃ c : List Char} {name : String} {value : Plain} (hb : Blanks b)
    (hk : Name k name) (hb₁ : Blanks b₁) (hb₂ : Blanks b₂) (hv : Value v value) (hb₃ : Blanks b₃)
    (hc : Comment c) :
    Line (b ++ (k ++ (b₁ ++ '=' :: (b₂ ++ (v ++ (b₃ ++ c)))))) (some (name, value))

inductive Lines : List Char → List Entry → Prop
  | last {w : List Char} {entry : Option Entry} (h : Line w entry) : Lines w entry.toList
  | more {w b rest : List Char} {entry : Option Entry} {entries : List Entry} (h : Line w entry)
    (hb : Break b) (hrest : Lines rest entries) : Lines (w ++ (b ++ rest)) (entry.toList ++ entries)

/-- A document that is a table, with or without a byte order mark. -/
inductive Table : List Char → List Entry → Prop
  | bare {w : List Char} {entries : List Entry} (h : Lines w entries) : Table w entries
  | marked {w : List Char} {entries : List Entry} (h : Lines w entries) :
    Table ('\ufeff' :: w) entries

/-! ## The end of a line -/

section Ends

variable {b c e rest s : List Char}

/-- A line break in front of the rest, or the end of the document. -/
def Ends (e rest : List Char) : Prop := (e = [] ∧ rest = []) ∨ ∃ b, Break b ∧ e = b ++ rest

theorem Ends.lineEnd (h : Ends e rest) : lineEnd e = some rest := by
  rcases h with ⟨rfl, rfl⟩ | ⟨b, hb, rfl⟩
  · rfl
  · cases hb <;> rfl

theorem Ends.head (h : Ends e rest) : ∀ d ∈ e.head?, d = '\n' ∨ d = '\r' := by
  rcases h with ⟨rfl, rfl⟩ | ⟨b, hb, rfl⟩
  · simp
  · cases hb <;> simp

theorem stop_comment (hc : Comment c) (he : Ends e rest) : Stop (c ++ e) := by
  cases hc with
  | none =>
    intro d hd
    rcases he.head d hd with rfl | rfl <;> simp
  | some h => simp [Stop]

theorem stop_blanks (hb : Blanks b) (hs : Stop s) : Stop (b ++ s) := by
  cases b with
  | nil => exact hs
  | cons d b =>
    intro d' hd'
    cases hd'
    rcases hb d (by simp) with rfl | rfl <;> simp

/-- A comment and the end of its line are passed over. -/
theorem skipComment_append (hc : Comment c) (he : Ends e rest) : skipComment (c ++ e) = e := by
  cases hc with
  | none =>
    unfold skipComment
    split
    · rename_i heq
      rcases he.head '#' (by rw [← List.nil_append e, heq]; rfl) with h | h <;> cases h
    · rfl
  | @some w h =>
    have hw : ∀ d ∈ w, inComment d = true := fun d hd => by simpa [inComment] using h d hd
    show List.dropWhile inComment (w ++ e) = e
    rw [List.dropWhile_append_of_pos hw]
    cases e with
    | nil => rfl
    | cons d e =>
      rcases he.head d rfl with rfl | rfl <;> rfl

theorem isBlank_comment (hc : Comment c) (he : Ends e rest) :
    ∀ d ∈ (c ++ e).head?, isBlank d = false := by
  cases hc with
  | none =>
    intro d hd
    rcases he.head d hd with rfl | rfl <;> rfl
  | some h => simp [isBlank]

theorem lineRest_written (hb : Blanks b) (hc : Comment c) (he : Ends e rest) :
    lineRest (b ++ (c ++ e)) = some rest := by
  rw [lineRest, skipBlanks_append hb, skipBlanks_of_head (isBlank_comment hc he),
    skipComment_append hc he, he.lineEnd]

end Ends

/-! ## Names -/

section Names

variable {k b s : List Char} {name : String}

theorem inBareKey_of_bare {c : Char} (hc : Bare c) : inBareKey c = true := by
  simpa [inBareKey, Bare, or_assoc] using hc

theorem Bare.ne {c d : Char} (hc : Bare c) (hd : inBareKey d = false) : c ≠ d := by
  rintro rfl
  rw [inBareKey_of_bare hc] at hd
  cases hd

/-- A name begins neither with a blank nor with anything else that may begin a line. -/
theorem Name.head (h : Name k name) : ∃ c t, k = c :: t ∧ isBlank c = false ∧
    ∀ d ∈ ['#', '[', '\n', '\r', '\ufeff'], c ≠ d := by
  cases h with
  | bare hne h =>
    obtain ⟨c, t, rfl⟩ := List.exists_cons_of_ne_nil hne
    have hc : Bare c := h c (by simp)
    refine ⟨c, t, rfl, ?_, fun d hd => ?_⟩
    · simp [isBlank, hc.ne (d := ' ') rfl, hc.ne (d := '\t') rfl]
    · simp only [List.mem_cons, List.not_mem_nil, or_false] at hd
      rcases hd with rfl | rfl | rfl | rfl | rfl <;> exact hc.ne rfl
  | quoted h =>
    cases h with
    | basic h => exact ⟨_, _, rfl, by decide, List.all_iff_forall_prop.mp rfl⟩
    | literal h => exact ⟨_, _, rfl, by decide, List.all_iff_forall_prop.mp rfl⟩

theorem simpleKey_written (h : Name k name) (hs : ∀ c ∈ s.head?, inBareKey c = false) :
    simpleKey (k ++ s) = some (name, s) := by
  cases h with
  | bare hne h =>
    have hbare : ∀ c ∈ k, inBareKey c = true := fun c hc => inBareKey_of_bare (h c hc)
    have htake : (k ++ s).takeWhile inBareKey = k ∧ (k ++ s).dropWhile inBareKey = s := by
      rw [List.takeWhile_append_of_pos hbare, List.dropWhile_append_of_pos hbare]
      cases s with
      | nil => simp
      | cons c s => simp [hs c rfl]
    obtain ⟨c, t, rfl⟩ := List.exists_cons_of_ne_nil hne
    have hc : Bare c := h c (by simp)
    unfold simpleKey
    split
    · exact absurd (List.cons.inj ‹_›).1 (hc.ne rfl)
    · exact absurd (List.cons.inj ‹_›).1 (hc.ne rfl)
    · dsimp only
      rw [htake.1, htake.2, if_neg hne]
  | quoted h =>
    cases h with
    | @basic w text h =>
      have hk : '"' :: (w ++ ['"']) ++ s = '"' :: (w ++ '"' :: s) := by simp
      rw [hk]
      show (basic _ (w ++ '"' :: s)).map _ = _
      rw [basic_written h (by simp only [List.length_cons, List.length_append]; omega)]
      rfl
    | literal h =>
      rename_i text
      have hk : '\x27' :: (text ++ ['\x27']) ++ s = '\x27' :: (text ++ '\x27' :: s) := by simp
      rw [hk]
      show (literal (text ++ '\x27' :: s)).map _ = _
      rw [literal_written h]
      rfl

/-- A name in front of an equals sign is a key of one part. -/
theorem key_written (h : Name k name) (hb : Blanks b) (length : Nat) (s : List Char) :
    ∃ place, key length (k ++ (b ++ '=' :: s)) = some ([⟨name, place⟩], '=' :: s) := by
  have hhead : ∀ c ∈ (b ++ '=' :: s).head?, inBareKey c = false := by
    cases b with
    | nil => simp [inBareKey]
    | cons c b =>
      rcases hb c (by simp) with rfl | rfl <;> simp [inBareKey]
  have hskip : skipBlanks (k ++ (b ++ '=' :: s)) = k ++ (b ++ '=' :: s) := by
    obtain ⟨c, t, rfl, hblank, -⟩ := h.head
    exact skipBlanks_of_head (by simpa using hblank)
  have hequals : skipBlanks (b ++ '=' :: s) = '=' :: s := by
    rw [skipBlanks_append hb]
    rfl
  refine ⟨extent length (k ++ (b ++ '=' :: s)) (b ++ '=' :: s), ?_⟩
  rw [key, keyParts]
  simp only [hskip, simpleKey_written h hhead, Option.bind_eq_bind, Option.bind_some, hequals]
  rfl

end Names

/-! ## One line -/

section Steps

variable {length : Nat} {p : Progress} {items : List (String × Node)} {w e rest : List Char}

/-- The lines go to a table that is not named, and these are its items. -/
structure Holds (p : Progress) (items : List (String × Node)) : Prop where
  path : p.path = []
  current : ∃ place, p.current = .table false false place items

theorem Holds.finish (hp : Holds p items) :
    ∃ place, p.finish = some (.table false false place items) := by
  obtain ⟨place, hplace⟩ := hp.current
  exact ⟨place, by rw [Progress.finish, hp.path, hplace]; rfl⟩

/-- The settings of items. -/
def itemSettings (items : List (String × Node)) : List (String × Setting) :=
  items.map fun item => (item.1, item.2.setting)

/-- A value under a new name becomes the last item. -/
theorem addValue_new (hp : Holds p items) {name : String} (hnew : name ∉ items.map Prod.fst)
    (keyPlace place : Extent) (setting : Setting) :
    ∃ p', p.addValue [⟨name, keyPlace⟩] setting place = some p' ∧
      Holds p' (items ++ [(name, .value setting place)]) := by
  obtain ⟨start, hcurrent⟩ := hp.current
  have hlookup : items.lookup name = none := by
    rw [List.lookup_eq_none_iff]
    intro item hitem
    simp only [bne_iff_ne, ne_eq]
    rintro rfl
    exact hnew (List.mem_map_of_mem hitem)
  have hinsert : p.current.insert [⟨name, keyPlace⟩] (.value setting place) =
      some (.table false false start (items ++ [(name, .value setting place)])) := by
    rw [hcurrent]
    simp [Node.insert, Node.alter, Node.insertHere, hlookup]
  rw [Progress.addValue, hinsert]
  exact ⟨_, rfl, hp.path, _, rfl⟩

/-- A comment takes its line, and so does a line break. -/
theorem statement_blank {c : List Char} (hc : Comment c) (he : Ends e rest) (hne : c ++ e ≠ []) :
    statement length p (c ++ e) = some (p, rest) := by
  cases hc with
  | none =>
    rcases he with ⟨rfl, -⟩ | ⟨b, hb, rfl⟩
    · exact absurd rfl hne
    · cases hb <;> rfl
  | @some w h =>
    show (lineEnd (skipComment ('#' :: w ++ e))).map _ = _
    rw [skipComment_append (.some h) he, he.lineEnd]
    rfl

/-- A name and its value take their line. -/
theorem statement_entry (length : Nat) {k b₁ b₂ v b₃ c : List Char} {name : String}
    {entryValue : Plain} (hp : Holds p items) (hnew : name ∉ items.map Prod.fst)
    (hk : Name k name) (hb₁ : Blanks b₁) (hb₂ : Blanks b₂) (hv : Value v entryValue)
    (hb₃ : Blanks b₃) (hc : Comment c) (he : Ends e rest) :
    ∃ p' place, statement length p (k ++ (b₁ ++ '=' :: (b₂ ++ (v ++ (b₃ ++ (c ++ e)))))) =
        some (p', rest) ∧ Holds p' (items ++ [(name, .value entryValue.setting place)]) := by
  obtain ⟨keyPlace, hkey⟩ := key_written hk hb₁ length (b₂ ++ (v ++ (b₃ ++ (c ++ e))))
  have hstop : Stop (b₃ ++ (c ++ e)) := stop_blanks hb₃ (stop_comment hc he)
  have hwritten : skipBlanks (b₂ ++ (v ++ (b₃ ++ (c ++ e)))) = v ++ (b₃ ++ (c ++ e)) := by
    rw [skipBlanks_append hb₂]
    exact skipBlanks_of_head (head_value hv _)
  have hvalue := value_written hv hstop (2 * (v ++ (b₃ ++ (c ++ e))).length + 1) 0
  have hline := lineRest_written hb₃ hc he
  obtain ⟨p', hadd, hp'⟩ := addValue_new hp hnew keyPlace
    (extent length (v ++ (b₃ ++ (c ++ e))) (b₃ ++ (c ++ e))) entryValue.setting
  refine ⟨p', _, ?_, hp'⟩
  obtain ⟨d, t, rfl, -, hd⟩ := hk.head
  rw [List.cons_append] at hkey ⊢
  unfold statement
  split
  · exact absurd (List.cons.inj ‹_›).1 (hd '#' (by simp))
  · exact absurd (List.cons.inj ‹_›).1 (hd '[' (by simp))
  · exact absurd (List.cons.inj ‹_›).1 (hd '[' (by simp))
  · rw [newline_cons (hd '\n' (by simp)) (hd '\r' (by simp))]
    simp only [hkey, expect, hwritten, hvalue, hadd, hline, Option.bind_eq_bind, Option.bind_some,
      if_pos]

/-- One line either is empty and the last one, or it is one statement. Its setting stands behind
those of the lines before. -/
theorem statement_line (length : Nat) {entry : Option Entry} (h : Line w entry) (he : Ends e rest)
    (hp : Holds p items) (hnew : ∀ x ∈ entry, x.1 ∉ items.map Prod.fst) :
    ∃ p' more, Holds p' (items ++ more) ∧ itemSettings more = settings entry.toList ∧
      ((skipBlanks (w ++ e) = [] ∧ rest = [] ∧ p' = p) ∨
        (skipBlanks (w ++ e) ≠ [] ∧
          statement length p (skipBlanks (w ++ e)) = some (p', rest))) := by
  cases h with
  | @blank b c hb hc =>
    have hskip : skipBlanks (b ++ c ++ e) = c ++ e := by
      rw [List.append_assoc, skipBlanks_append hb]
      exact skipBlanks_of_head (isBlank_comment hc he)
    refine ⟨p, [], by rwa [List.append_nil], rfl, ?_⟩
    rw [hskip]
    by_cases hnil : c ++ e = []
    · refine .inl ⟨hnil, ?_, rfl⟩
      rcases he with ⟨-, hrest⟩ | ⟨b, hb, rfl⟩
      · exact hrest
      · cases hb <;> simp at hnil
    · exact .inr ⟨hnil, statement_blank hc he hnil⟩
  | @entry b k b₁ b₂ v b₃ c name value hb hk hb₁ hb₂ hv hb₃ hc =>
    obtain ⟨p', place, hstatement, hp'⟩ :=
      statement_entry length hp (hnew _ rfl) hk hb₁ hb₂ hv hb₃ hc he
    have hskip : skipBlanks (b ++ (k ++ (b₁ ++ '=' :: (b₂ ++ (v ++ (b₃ ++ c))))) ++ e) =
        k ++ (b₁ ++ '=' :: (b₂ ++ (v ++ (b₃ ++ (c ++ e))))) := by
      simp only [List.append_assoc, List.cons_append]
      rw [skipBlanks_append hb]
      obtain ⟨d, t, rfl, hd, -⟩ := hk.head
      exact skipBlanks_of_head (by simpa using hd)
    refine ⟨p', [(name, .value value.setting place)], hp', rfl, .inr ?_⟩
    rw [hskip]
    refine ⟨?_, hstatement⟩
    obtain ⟨d, t, rfl, -, -⟩ := hk.head
    simp

end Steps

/-! ## All lines -/

section Runs

variable {w : List Char} {entries : List Entry}

theorem itemSettings_append (items more : List (String × Node)) :
    itemSettings (items ++ more) = itemSettings items ++ itemSettings more :=
  List.map_append

theorem names_of_itemSettings {more : List (String × Node)} {entries : List Entry}
    (h : itemSettings more = settings entries) : more.map Prod.fst = names entries := by
  have hfst := congrArg (List.map Prod.fst) h
  rw [map_fst_settings, itemSettings, List.map_map] at hfst
  exact hfst

theorem statements_nil {length fuel : Nat} {p : Progress} {s : List Char}
    (h : skipBlanks s = []) : statements length (fuel + 1) p s = p.finish := by
  rw [statements, h]

theorem statements_cons {length fuel : Nat} {p : Progress} {s : List Char}
    (h : skipBlanks s ≠ []) :
    statements length (fuel + 1) p s =
      statement length p (skipBlanks s) >>= fun result =>
        statements length fuel result.1 result.2 := by
  rw [statements]
  split
  · exact absurd ‹_› h
  · rfl

/-- A name that is new among more names. -/
theorem new_of_nodup {items : List (String × Node)} {entry : Option Entry}
    (h : (items.map Prod.fst ++ names entry.toList).Nodup) :
    ∀ x ∈ entry, x.1 ∉ items.map Prod.fst := by
  rintro x hx hmem
  cases hx
  exact (List.nodup_append.mp h).2.2 _ hmem _ (by simp [names]) rfl

/-- Lines add their settings to those of a table. -/
theorem statements_written (length : Nat) {fuel : Nat} {p : Progress} {items : List (String × Node)}
    (h : Lines w entries) (hp : Holds p items)
    (distinct : (items.map Prod.fst ++ names entries).Nodup) (hfuel : w.length < fuel) :
    ∃ place more, statements length fuel p w = some (.table false false place (items ++ more)) ∧
      itemSettings more = settings entries := by
  induction h generalizing fuel p items with
  | @last w entry h =>
    obtain ⟨fuel, rfl⟩ := Nat.exists_eq_succ_of_ne_zero (Nat.ne_zero_of_lt hfuel)
    obtain ⟨p', more, hp', hmore, hstep⟩ :=
      statement_line length (e := []) h (.inl ⟨rfl, rfl⟩) hp (new_of_nodup distinct)
    rw [List.append_nil] at hstep
    obtain ⟨place, hfinish⟩ := hp'.finish
    refine ⟨place, more, ?_, hmore⟩
    rcases hstep with ⟨hnil, -, rfl⟩ | ⟨hne, hstatement⟩
    · rw [statements_nil hnil, hfinish]
    · rw [statements_cons hne, hstatement]
      obtain ⟨n, rfl⟩ : ∃ n, fuel = n + 1 := by
        cases fuel with
        | zero =>
          obtain rfl : w = [] := List.eq_nil_of_length_eq_zero (by omega)
          exact absurd rfl hne
        | succ n => exact ⟨n, rfl⟩
      show statements length (n + 1) p' [] = _
      rw [statements_nil rfl, hfinish]
  | @more w b rest entry entries h hb hrest ih =>
    obtain ⟨fuel, rfl⟩ := Nat.exists_eq_succ_of_ne_zero (Nat.ne_zero_of_lt hfuel)
    have hlength : 0 < b.length := by cases hb <;> decide
    rw [List.length_append, List.length_append] at hfuel
    rw [names, List.map_append, ← List.append_assoc] at distinct
    obtain ⟨p', more, hp', hmore, hstep⟩ :=
      statement_line length h (.inr ⟨b, hb, rfl⟩) hp
        (new_of_nodup (distinct.sublist (List.sublist_append_left _ _)))
    have hne : skipBlanks (w ++ (b ++ rest)) ≠ [] := by
      intro hnil
      have hall := List.dropWhile_eq_nil_iff.mp hnil
      have hfeed : '\n' ∈ b := by cases hb <;> decide
      exact absurd (hall '\n' (by simp [hfeed])) (by decide)
    rcases hstep with ⟨hnil, -, -⟩ | ⟨-, hstatement⟩
    · exact absurd hnil hne
    have hdistinct : ((items ++ more).map Prod.fst ++ names entries).Nodup := by
      rw [List.map_append, names_of_itemSettings hmore]
      exact distinct
    obtain ⟨place, more', hrun, hmore'⟩ := @ih fuel _ _ hp' hdistinct (by omega)
    refine ⟨place, more ++ more', ?_, ?_⟩
    · rw [statements_cons hne, hstatement, ← List.append_assoc]
      exact hrun
    · rw [itemSettings_append, hmore, hmore', settings, settings, settings, List.map_append]

end Runs

/-! ## Documents -/

section Documents

variable {document : List Char} {entries : List Entry}

theorem Line.head {w : List Char} {entry : Option Entry} (h : Line w entry) :
    w.head? ≠ some '\ufeff' := by
  have hcons {b s : List Char} (hb : Blanks b) (hs : s.head? ≠ some '\ufeff') :
      (b ++ s).head? ≠ some '\ufeff' := by
    cases b with
    | nil => exact hs
    | cons c b => rcases hb c (by simp) with rfl | rfl <;> simp
  cases h with
  | blank hb hc => exact hcons hb (by cases hc <;> simp)
  | entry hb hk =>
    obtain ⟨c, t, rfl, -, hc⟩ := hk.head
    exact hcons hb (by simpa using hc '\ufeff' (by simp))

/-- Lines do not begin with a byte order mark. -/
theorem Lines.head (h : Lines document entries) : document.head? ≠ some '\ufeff' := by
  cases h with
  | last h => exact h.head
  | @more w b rest _ _ h hb hrest =>
    cases w with
    | nil => cases hb <;> simp
    | cons c w => exact h.head

/-- A table is read as a table with the settings of its entries. -/
theorem document_written (h : Table document entries) (distinct : (names entries).Nodup) :
    ∃ place items, Toml.document document = some (.table false false place items) ∧
      itemSettings items = settings entries := by
  have hstart : Holds .start [] := ⟨rfl, _, rfl⟩
  cases h with
  | bare h =>
    obtain ⟨place, items, hrun, hitems⟩ := statements_written document.length h hstart
      distinct (Nat.lt_succ_self _)
    refine ⟨place, items, ?_, hitems⟩
    rw [Toml.document, if_neg h.head, hrun]
    rfl
  | @marked w entries h =>
    obtain ⟨place, items, hrun, hitems⟩ := statements_written (w.length + 1) h hstart
      distinct (show w.length < w.length + 1 + 1 by omega)
    exact ⟨place, items, hrun, hitems⟩

/-- Items go to a draft as their settings do. -/
theorem foldlM_readItem (items : List (String × Node)) (d d' : Draft) :
    items.foldlM readItem d = .ok d' ↔ (itemSettings items).foldlM Draft.add d = .ok d' := by
  induction items generalizing d with
  | nil => exact ⟨fun h => by cases h; rfl, fun h => by cases h; rfl⟩
  | cons item items ih =>
    rw [itemSettings, List.map_cons, List.foldlM_cons, List.foldlM_cons, readItem]
    cases d.add (item.1, item.2.setting) with
    | error cause => exact ⟨(nomatch ·), (nomatch ·)⟩
    | ok d₁ => exact ih d₁

/-- A table is read as the endpoint of its settings. -/
theorem read_table (h : Table document entries) (distinct : (names entries).Nodup) (e : Endpoint) :
    Toml.read document = .ok e ↔ ofEntries (settings entries) = .ok e := by
  obtain ⟨place, items, hdocument, hitems⟩ := document_written h distinct
  rw [Toml.read, hdocument, ofEntries, ← hitems]
  dsimp only
  have hfold (d : Draft) := foldlM_readItem items .empty d
  cases hitem : items.foldlM readItem Draft.empty with
  | error flaw =>
    cases hadd : (itemSettings items).foldlM Draft.add Draft.empty with
    | error cause => exact ⟨(nomatch ·), (nomatch ·)⟩
    | ok d =>
      rw [(hfold d).mpr hadd] at hitem
      cases hitem
  | ok d =>
    have hbind {ε α : Type} (f : Draft → Except ε α) : Except.ok d >>= f = f d := rfl
    rw [(hfold d).mp hitem, hbind, hbind]
    cases d.endpoint with
    | error cause => exact ⟨(nomatch ·), (nomatch ·)⟩
    | ok e' => exact ⟨fun h => by cases h; rfl, fun h => by cases h; rfl⟩

end Documents

/-! ## Every list of entries can be written -/

theorem exists_table (entries : List Entry) : ∃ document, Table document entries := by
  have hblank : Blanks [] := by simp [Blanks]
  have hlines : ∃ w, Lines w entries := by
    induction entries with
    | nil => exact ⟨_, .last (.blank hblank .none)⟩
    | cons entry entries ih =>
      obtain ⟨rest, hrest⟩ := ih
      obtain ⟨k, hk⟩ := exists_inline entry.1.toList
      obtain ⟨v, hv⟩ := exists_value entry.2
      have hname := Name.quoted hk
      rw [String.ofList_toList] at hname
      exact ⟨_, .more (.entry hblank hname hblank hblank hv hblank .none) .feed hrest⟩
  obtain ⟨w, hw⟩ := hlines
  exact ⟨w, .bare hw⟩

end SqlGuard.Profile.Toml
