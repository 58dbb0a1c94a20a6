import Mathlib.Data.List.Nodup
import SqlGuard.Profile.Draft

/-!
# The endpoint that settings describe

Which endpoint a list of entries describes is said here without a draft
(`Describes`): some names have to have a text, one a number of 16 bits, and a name
that is absent leaves its default. A draft takes one setting after the other. Under
distinct names, what it has for a field afterwards is what the setting of that
field says, wherever it stands (`foldlM_add`).

* `ofEntries_settings`: the endpoint of the settings is the one that the entries
  describe, if they describe one.
* `acceptable_iff`: which entries describe an endpoint.
-/
namespace SqlGuard.Profile

/-! ## Entries -/

/-- A value that has a form of its own in every format. -/
inductive Plain
  | text (s : String)
  | bool (b : Bool)
  | integer (n : Int64)
  deriving DecidableEq, Repr

def Plain.setting : Plain → Setting
  | .text s => .text s
  | .bool b => .bool b
  | .integer n => .integer n.toInt

abbrev Entry : Type := String × Plain

def names (entries : List Entry) : List String := entries.map Prod.fst

def settings (entries : List Entry) : List (String × Setting) :=
  entries.map fun entry => (entry.1, entry.2.setting)

/-- The entries say what the endpoint has, or leave the default. -/
structure Describes (entries : List Entry) (e : Endpoint) : Prop where
  host : ("host", .text e.host) ∈ entries
  user : ("user", .text e.user) ∈ entries
  port : ("port" ∉ names entries ∧ e.port = 3306) ∨
    ∃ n : Int64, ("port", .integer n) ∈ entries ∧ n.toInt = e.port.toNat
  password : ("password" ∉ names entries ∧ e.password = "") ∨
    ("password", .text e.password) ∈ entries
  database : ("database" ∉ names entries ∧ e.database = "") ∨
    ("database", .text e.database) ∈ entries

/-- A host and a user are named, and what else has a meaning has a value that fits. -/
structure Acceptable (entries : List Entry) : Prop where
  host : ∃ s, ("host", .text s) ∈ entries
  user : ∃ s, ("user", .text s) ∈ entries
  port : "port" ∉ names entries ∨
    ∃ n : Int64, ("port", .integer n) ∈ entries ∧ 0 ≤ n.toInt ∧ n.toInt ≤ 65535
  password : "password" ∉ names entries ∨ ∃ s, ("password", .text s) ∈ entries
  database : "database" ∉ names entries ∨ ∃ s, ("database", .text s) ∈ entries

theorem port_iff (n : Int64) :
    (∃ p : UInt16, n.toInt = p.toNat) ↔ 0 ≤ n.toInt ∧ n.toInt ≤ 65535 := by
  constructor
  · rintro ⟨p, hp⟩
    have := p.toNat_lt
    omega
  · rintro ⟨hlow, hhigh⟩
    refine ⟨.ofNat n.toInt.toNat, ?_⟩
    rw [UInt16.toNat_ofNat', Nat.mod_eq_of_lt (by omega)]
    omega

/-- Entries describe an endpoint just if they are acceptable. -/
theorem acceptable_iff {entries : List Entry} :
    Acceptable entries ↔ ∃ e, Describes entries e := by
  constructor
  · rintro ⟨⟨host, hhost⟩, ⟨user, huser⟩, hport, hpassword, hdatabase⟩
    obtain ⟨port, hport⟩ : ∃ p : UInt16, ("port" ∉ names entries ∧ p = 3306) ∨
        ∃ n : Int64, ("port", .integer n) ∈ entries ∧ n.toInt = p.toNat := by
      rcases hport with habsent | ⟨n, hn, hrange⟩
      · exact ⟨3306, .inl ⟨habsent, rfl⟩⟩
      · obtain ⟨p, hp⟩ := (port_iff n).mpr hrange
        exact ⟨p, .inr ⟨n, hn, hp⟩⟩
    have htext {name : String} (h : name ∉ names entries ∨ ∃ s, (name, .text s) ∈ entries) :
        ∃ t, (name ∉ names entries ∧ t = "") ∨ (name, .text t) ∈ entries := by
      rcases h with habsent | ⟨s, hs⟩
      · exact ⟨"", .inl ⟨habsent, rfl⟩⟩
      · exact ⟨s, .inr hs⟩
    obtain ⟨password, hpassword⟩ := htext hpassword
    obtain ⟨database, hdatabase⟩ := htext hdatabase
    exact ⟨⟨host, port, user, password, database⟩, hhost, huser, hport, hpassword, hdatabase⟩
  · rintro ⟨e, h⟩
    refine ⟨⟨_, h.host⟩, ⟨_, h.user⟩, ?_, h.password.imp And.left fun hs => ⟨_, hs⟩,
      h.database.imp And.left fun hs => ⟨_, hs⟩⟩
    exact h.port.imp And.left fun ⟨n, hn, hp⟩ => ⟨n, hn, (port_iff n).mp ⟨_, hp⟩⟩

/-! ## Fields of a draft -/

theorem Field.name_injective {f g : Field} (h : f.name = g.name) : f = g := by
  revert h
  cases f <;> cases g <;> decide

theorem Field.ofName_eq_some_iff {key : String} {f : Field} :
    Field.ofName key = some f ↔ key = f.name := by
  constructor
  · intro h
    simpa [eq_comm] using List.find?_some h
  · rintro rfl
    cases f <;> decide

theorem Field.ofName_eq_none_iff {key : String} :
    Field.ofName key = none ↔ ∀ f : Field, f.name ≠ key := by
  constructor
  · intro h f hf
    rw [Field.ofName_eq_some_iff.mpr hf.symm] at h
    cases h
  · intro h
    cases hf : Field.ofName key with
    | none => rfl
    | some f => exact absurd (Field.ofName_eq_some_iff.mp hf).symm (h f)

/-- What a field can have. -/
inductive Datum
  | text (s : String)
  | port (n : UInt16)

namespace Draft

/-- What a draft has for a field. -/
def datum (d : Draft) : Field → Option Datum
  | .host => d.host.map .text
  | .port => d.port.map .port
  | .user => d.user.map .text
  | .password => d.password.map .text
  | .database => d.database.map .text

/-- What a setting gives a field. -/
def datumOf (s : Setting) : Field → Except Unfit Datum
  | .port => (portOf s).map .port
  | f => (textOf s f).map .text

theorem has_iff {d : Draft} {f : Field} : d.has f = true ↔ d.datum f ≠ none := by
  cases f <;> simp [has, datum, Option.isSome_iff_ne_none]

theorem ext_datum {d d' : Draft} (h : ∀ f, d.datum f = d'.datum f) : d = d' := by
  have htext {a b : Option String} (h : a.map Datum.text = b.map Datum.text) : a = b :=
    Option.map_injective (fun _ _ h => Datum.text.inj h) h
  have hport : d.port = d'.port := Option.map_injective (fun _ _ h => Datum.port.inj h) (h .port)
  cases d
  cases d'
  rw [Draft.mk.injEq]
  exact ⟨htext (h .host), hport, htext (h .user), htext (h .password), htext (h .database)⟩

/-- A setting that fits changes its own field only. -/
theorem set_ok (d : Draft) {f : Field} {s : Setting} {x : Datum} (h : datumOf s f = .ok x) :
    ∃ d', d.set f s = .ok d' ∧ d'.datum f = some x ∧ ∀ g, g ≠ f → d'.datum g = d.datum g := by
  cases f
  case port =>
    simp only [datumOf, set] at h ⊢
    cases hp : portOf s with
    | error cause => rw [hp] at h; cases h
    | ok port =>
      rw [hp] at h
      cases h
      exact ⟨_, rfl, rfl, fun g hg => by cases g <;> first | rfl | exact absurd rfl hg⟩
  all_goals
    simp only [datumOf, set] at h ⊢
    cases ht : textOf s _ with
    | error cause => rw [ht] at h; cases h
    | ok t =>
      rw [ht] at h
      cases h
      exact ⟨_, rfl, rfl, fun g hg => by cases g <;> first | rfl | exact absurd rfl hg⟩

theorem set_error (d : Draft) {f : Field} {s : Setting} {cause : Unfit}
    (h : datumOf s f = .error cause) : d.set f s = .error cause := by
  cases f
  case port =>
    simp only [datumOf, set] at h ⊢
    cases hp : portOf s with
    | error cause => rw [hp] at h; cases h; rfl
    | ok port => rw [hp] at h; cases h
  all_goals
    simp only [datumOf, set] at h ⊢
    cases ht : textOf s _ with
    | error cause => rw [ht] at h; cases h; rfl
    | ok t => rw [ht] at h; cases h

/-! ## Settings one after the other -/

section Taken

variable {entries : List (String × Setting)} {d d' : Draft} {f : Field} {x y : Option Datum}

/-- A field that had something has something else after the entries, if one of them is about it. -/
def Taken (entries : List (String × Setting)) (f : Field) (before after : Option Datum) : Prop :=
  (f.name ∉ entries.map Prod.fst ∧ after = before) ∨
    ∃ s x, (f.name, s) ∈ entries ∧ datumOf s f = .ok x ∧ after = some x

/-- A setting of another name is passed over. -/
theorem taken_cons_ne {key : String} (h : f.name ≠ key) (s : Setting) :
    Taken ((key, s) :: entries) f x y ↔ Taken entries f x y := by
  simp [Taken, h]

theorem taken_of_absent (absent : f.name ∉ entries.map Prod.fst) : Taken entries f x y ↔ y = x := by
  have hnot (s : Setting) : (f.name, s) ∉ entries := fun h => absent (List.mem_map_of_mem h)
  simp only [Taken, absent, hnot, not_false_eq_true, true_and, false_and, exists_false, or_false]

/-- The only setting of a name is the one that counts. -/
theorem taken_cons_self (absent : f.name ∉ entries.map Prod.fst) (s : Setting) :
    Taken ((f.name, s) :: entries) f x y ↔ ∃ z, datumOf s f = .ok z ∧ y = some z := by
  have hnot (s : Setting) : (f.name, s) ∉ entries := fun h => absent (List.mem_map_of_mem h)
  simp [Taken, hnot]

/-- What the draft has for every field in the end is what the settings gave it. -/
theorem foldlM_add (distinct : (entries.map Prod.fst).Nodup)
    (fresh : ∀ f, d.has f = true → f.name ∉ entries.map Prod.fst) :
    entries.foldlM Draft.add d = .ok d' ↔ ∀ f, Taken entries f (d.datum f) (d'.datum f) := by
  induction entries generalizing d with
  | nil =>
    constructor
    · rintro ⟨⟩ f
      exact .inl ⟨List.not_mem_nil, rfl⟩
    · intro h
      have hd : d' = d := ext_datum fun f => by
        rcases h f with ⟨-, hf⟩ | ⟨s, x, hs, -⟩
        · exact hf
        · cases hs
      exact congrArg Except.ok hd.symm
  | cons entry entries ih =>
    obtain ⟨key, s⟩ := entry
    obtain ⟨absent, hrest⟩ := List.nodup_cons.mp distinct
    have fresh' (f : Field) (hf : d.has f = true) :
        f.name ≠ key ∧ f.name ∉ entries.map Prod.fst := by
      simpa using fresh f hf
    rw [List.foldlM_cons]
    cases hkey : Field.ofName key with
    | none =>
      have hadd : d.add (key, s) = .ok d := by rw [add, hkey]
      rw [hadd]
      simp only [taken_cons_ne (Field.ofName_eq_none_iff.mp hkey _)]
      exact ih hrest fun f hf => (fresh' f hf).2
    | some g =>
      obtain rfl := Field.ofName_eq_some_iff.mp hkey
      have hfree : ¬d.has g = true := fun h => (fresh' g h).1 rfl
      have hadd : d.add (g.name, s) = d.set g s := by
        rw [add, hkey]
        exact if_neg hfree
      rw [hadd]
      cases hx : datumOf s g with
      | error cause =>
        rw [set_error d hx]
        refine ⟨(nomatch ·), fun h => ?_⟩
        obtain ⟨x, hok, -⟩ := (taken_cons_self absent s).mp (h g)
        rw [hx] at hok
        cases hok
      | ok x =>
        obtain ⟨d₁, hd, hself, hother⟩ := set_ok d hx
        rw [hd]
        have hih := ih (d := d₁) hrest fun f hf => by
          by_cases hfg : f = g
          · exact hfg ▸ absent
          · refine (fresh' f ?_).2
            rw [has_iff] at hf ⊢
            rwa [← hother f hfg]
        refine hih.trans (forall_congr' fun f => ?_)
        by_cases hfg : f = g
        · subst hfg
          rw [taken_cons_self absent, taken_of_absent absent, hx, hself]
          simp [eq_comm]
        · rw [taken_cons_ne fun h => hfg (Field.name_injective h), hother f hfg]

end Taken

/-! ## The endpoint of a draft -/

theorem endpoint_ok {d : Draft} {e : Endpoint} :
    d.endpoint = .ok e ↔ d.host = some e.host ∧ d.user = some e.user ∧
      d.port.getD defaultPort = e.port ∧ d.password.getD "" = e.password ∧
      d.database.getD "" = e.database := by
  obtain ⟨host, port, user, password, database⟩ := d
  obtain ⟨host', port', user', password', database'⟩ := e
  cases host <;> cases user <;> simp [endpoint]
  tauto

end Draft

section Entries

variable {entries : List Entry}

theorem map_fst_settings (entries : List Entry) :
    (settings entries).map Prod.fst = names entries := by
  simp [settings, names]

theorem mem_settings {name : String} {s : Setting} :
    (name, s) ∈ settings entries ↔ ∃ v, (name, v) ∈ entries ∧ v.setting = s := by
  simp [settings]

section Texts

variable {f : Field} {t : String}

/-- What an entry gives a field with a text. -/
theorem datumOf_text {v : Plain} {x : Datum} (hf : f ≠ .port) :
    Draft.datumOf v.setting f = .ok x ↔ ∃ s, v = .text s ∧ x = .text s := by
  have hdatum : Draft.datumOf v.setting f = (Draft.textOf v.setting f).map Datum.text := by
    cases f <;> first | rfl | exact absurd rfl hf
  rw [hdatum]
  cases v with
  | text s => simp [Plain.setting, Draft.textOf, Except.map, eq_comm]
  | bool b => simp [Plain.setting, Draft.textOf, Except.map]
  | integer n => simp [Plain.setting, Draft.textOf, Except.map]

/-- A field with a text, after the settings of the entries. -/
theorem taken_text (hf : f ≠ .port) {o : Option String} :
    Draft.Taken (settings entries) f none (o.map .text) ↔
      (f.name ∉ names entries ∧ o = none) ∨ ∃ s, (f.name, .text s) ∈ entries ∧ o = some s := by
  simp only [Draft.Taken, map_fst_settings, mem_settings]
  refine or_congr (by simp) ⟨?_, ?_⟩
  · rintro ⟨_, x, ⟨v, hv, rfl⟩, hx, ho⟩
    obtain ⟨s, rfl, rfl⟩ := (datumOf_text hf).mp hx
    exact ⟨s, hv, by simpa using ho⟩
  · rintro ⟨s, hs, rfl⟩
    exact ⟨_, .text s, ⟨_, hs, rfl⟩, (datumOf_text hf).mpr ⟨s, rfl, rfl⟩, rfl⟩

theorem taken_named (hf : f ≠ .port) :
    Draft.Taken (settings entries) f none (some (.text t)) ↔ (f.name, .text t) ∈ entries := by
  rw [show some (Datum.text t) = (some t).map .text from rfl, taken_text hf]
  simp

theorem taken_optional (hf : f ≠ .port) :
    (∃ o : Option String, Draft.Taken (settings entries) f none (o.map .text) ∧ o.getD "" = t) ↔
      (f.name ∉ names entries ∧ t = "") ∨ (f.name, .text t) ∈ entries := by
  simp only [taken_text hf]
  constructor
  · rintro ⟨o, ⟨habsent, rfl⟩ | ⟨s, hs, rfl⟩, rfl⟩
    · exact .inl ⟨habsent, rfl⟩
    · exact .inr hs
  · rintro (⟨habsent, rfl⟩ | ht)
    · exact ⟨none, .inl ⟨habsent, rfl⟩, rfl⟩
    · exact ⟨some t, .inr ⟨t, ht, rfl⟩, rfl⟩

end Texts

theorem portOf_integer {n : Int} {p : UInt16} :
    Draft.portOf (.integer n) = .ok p ↔ n = p.toNat := by
  have hp := p.toNat_lt
  simp only [Draft.portOf]
  split
  · rename_i h
    rw [Except.ok.injEq]
    constructor
    · rintro rfl
      rw [UInt16.toNat_ofNat', Nat.mod_eq_of_lt (by omega)]
      omega
    · rintro rfl
      exact UInt16.ofNat_toNat
  · exact ⟨(nomatch ·), fun h => by omega⟩

/-- What an entry gives the port. -/
theorem datumOf_port {v : Plain} {x : Datum} :
    Draft.datumOf v.setting .port = .ok x ↔
      ∃ (n : Int64) (p : UInt16), v = .integer n ∧ n.toInt = p.toNat ∧ x = .port p := by
  simp only [Draft.datumOf]
  cases v with
  | text s => exact ⟨(nomatch ·), fun ⟨_, _, h, _⟩ => nomatch h⟩
  | bool b => exact ⟨(nomatch ·), fun ⟨_, _, h, _⟩ => nomatch h⟩
  | integer n =>
    constructor
    · intro h
      cases hp : Draft.portOf (.integer n.toInt) with
      | error cause => simp only [Plain.setting, hp] at h; cases h
      | ok p =>
        simp only [Plain.setting, hp] at h
        cases h
        exact ⟨n, p, rfl, portOf_integer.mp hp, rfl⟩
    · rintro ⟨_, p, ⟨⟩, hp, rfl⟩
      rw [Plain.setting, portOf_integer.mpr hp]
      rfl

/-- The port after the settings of the entries. -/
theorem taken_port {p : UInt16} :
    (∃ o : Option UInt16, Draft.Taken (settings entries) .port none (o.map .port) ∧
      o.getD defaultPort = p) ↔
      ("port" ∉ names entries ∧ p = 3306) ∨
        ∃ n : Int64, ("port", .integer n) ∈ entries ∧ n.toInt = p.toNat := by
  simp only [Draft.Taken, map_fst_settings, mem_settings]
  constructor
  · rintro ⟨o, ⟨habsent, ho⟩ | ⟨_, x, ⟨v, hv, rfl⟩, hx, ho⟩, rfl⟩
    · rw [Option.map_eq_none_iff.mp ho]
      exact .inl ⟨habsent, rfl⟩
    · obtain ⟨n, q, rfl, hq, rfl⟩ := datumOf_port.mp hx
      obtain ⟨_, rfl, ⟨⟩⟩ := Option.map_eq_some_iff.mp ho
      exact .inr ⟨n, hv, hq⟩
  · rintro (⟨habsent, rfl⟩ | ⟨n, hn, hp⟩)
    · exact ⟨none, .inl ⟨habsent, rfl⟩, rfl⟩
    · exact ⟨some p, .inr ⟨_, .port p, ⟨_, hn, rfl⟩, datumOf_port.mpr ⟨n, p, rfl, hp, rfl⟩, rfl⟩,
        rfl⟩

/-- A draft takes the settings of the entries. -/
theorem foldlM_settings (distinct : (names entries).Nodup) {d : Draft} :
    (settings entries).foldlM Draft.add Draft.empty = .ok d ↔
      ∀ f, Draft.Taken (settings entries) f none (d.datum f) := by
  rw [Draft.foldlM_add (by rwa [map_fst_settings]) fun f hf => by cases f <;> cases hf]
  refine forall_congr' fun f => ?_
  cases f <;> rfl

/-- The endpoint of the settings is the one that the entries describe. -/
theorem ofEntries_settings (distinct : (names entries).Nodup) (e : Endpoint) :
    ofEntries (settings entries) = .ok e ↔ Describes entries e := by
  have hresult : ofEntries (settings entries) = .ok e ↔ ∃ d : Draft,
      (∀ f, Draft.Taken (settings entries) f none (d.datum f)) ∧ d.endpoint = .ok e := by
    unfold ofEntries
    simp only [← foldlM_settings distinct]
    cases (settings entries).foldlM Draft.add Draft.empty with
    | error cause => exact ⟨(nomatch ·), fun ⟨_, h, _⟩ => nomatch h⟩
    | ok d => exact ⟨fun h => ⟨d, rfl, h⟩, fun ⟨_, hd, h⟩ => by cases hd; exact h⟩
  rw [hresult]
  constructor
  · rintro ⟨d, htaken, hend⟩
    obtain ⟨hhost, huser, hport, hpassword, hdatabase⟩ := Draft.endpoint_ok.mp hend
    have hd : d.datum .host = some (.text e.host) ∧ d.datum .user = some (.text e.user) := by
      simp [Draft.datum, hhost, huser]
    exact {
      host := (taken_named (f := .host) (by decide)).mp (hd.1 ▸ htaken .host)
      user := (taken_named (f := .user) (by decide)).mp (hd.2 ▸ htaken .user)
      port := taken_port.mp ⟨_, htaken .port, hport⟩
      password :=
        (taken_optional (f := .password) (by decide)).mp ⟨_, htaken .password, hpassword⟩
      database :=
        (taken_optional (f := .database) (by decide)).mp ⟨_, htaken .database, hdatabase⟩ }
  · intro h
    obtain ⟨port, hport, hport'⟩ := taken_port.mpr h.port
    obtain ⟨password, hpassword, hpassword'⟩ :=
      (taken_optional (f := .password) (by decide)).mpr h.password
    obtain ⟨database, hdatabase, hdatabase'⟩ :=
      (taken_optional (f := .database) (by decide)).mpr h.database
    refine ⟨⟨some e.host, port, some e.user, password, database⟩, fun f => ?_,
      Draft.endpoint_ok.mpr ⟨rfl, rfl, hport', hpassword', hdatabase'⟩⟩
    cases f with
    | host => exact (taken_named (f := .host) (by decide)).mpr h.host
    | port => exact hport
    | user => exact (taken_named (f := .user) (by decide)).mpr h.user
    | password => exact hpassword
    | database => exact hdatabase

end Entries

end SqlGuard.Profile
