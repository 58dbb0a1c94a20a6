import SqlGuard.ConnectionString.Read
import SqlGuard.Proofs.Numerals
import SqlGuard.Proofs.Percent

/-!
# Credentials in a connection string

Credentials are written into a connection string with their user, password and
database percent-encoded, so that no character of them ends a part. The string is
always valid, host and port are read from it as they were written, and the other
parts are found again, but nothing decodes them.

* `ofConnectionString_written`: what is read is the encoded form of the
  credentials, which is the credentials themselves just if nothing had to be
  encoded.
* `ofConnectionString_kept`: no connection string gives a user or a password with
  one of the characters that are encoded there.
-/
namespace SqlGuard

open Text

/-! ## Cutting a text -/

namespace ConnectionString

/-- A text is cut behind the characters with a property, in front of one without it. -/
theorem cut_append {p : Char → Bool} {s t : List Char} (hs : ∀ c ∈ s, p c = true)
    (ht : ∀ c ∈ t.head?, p c = false) :
    (s ++ t).takeWhile p = s ∧ (s ++ t).dropWhile p = t := by
  rw [List.takeWhile_append_of_pos hs, List.dropWhile_append_of_pos hs]
  cases t with
  | nil => simp
  | cons c t =>
    have hc : ¬p c = true := by simp [ht c rfl]
    simp [List.takeWhile_cons_of_neg hc, List.dropWhile_cons_of_neg hc]

theorem cut_all {p : Char → Bool} {s : List Char} (hs : ∀ c ∈ s, p c = true) :
    s.takeWhile p = s ∧ s.dropWhile p = [] := by
  have := cut_append (t := []) hs (by simp)
  rwa [List.append_nil] at this

/-! ## Characters that end no part -/

/-- A character that stands for itself wherever it is. -/
structure Inert (c : Char) : Prop where
  visible : 0x20 < c.toNat
  inside : endsAuthority c = false
  inUser : keptInUser c = true
  inHost : keptInHost c = true
  inName : c ∉ forbiddenInHost

/-- Letters and digits by their codes. -/
theorem isAlphanum_iff {c : Char} : c.isAlphanum = true ↔
    ((65 ≤ c.toNat ∧ c.toNat ≤ 90) ∨ 97 ≤ c.toNat ∧ c.toNat ≤ 122) ∨
      48 ≤ c.toNat ∧ c.toNat ≤ 57 := by
  change ((decide ('A'.val ≤ c.val ∧ c.val ≤ 'Z'.val) ||
    decide ('a'.val ≤ c.val) && decide (c.val ≤ 'z'.val)) ||
    decide ('0'.val ≤ c.val) && decide (c.val ≤ '9'.val)) = true ↔ _
  simp only [Bool.or_eq_true, Bool.and_eq_true, decide_eq_true_eq]
  exact Iff.rfl

theorem toNat_of_unreserved {c : Char} (h : isUnreserved c = true) : c.toNat < 128 := by
  simp only [isUnreserved, Bool.or_eq_true, List.contains_eq_mem, decide_eq_true_eq,
    List.mem_cons, List.not_mem_nil, or_false] at h
  rcases h with h | rfl | rfl | rfl | rfl
  · have := isAlphanum_iff.mp h
    omega
  all_goals decide

theorem inert_ascii : ∀ n < 128, isUnreserved (Char.ofNat n) = true ∨ Char.ofNat n = '%' →
    0x20 < (Char.ofNat n).toNat ∧ endsAuthority (Char.ofNat n) = false ∧
      keptInUser (Char.ofNat n) = true ∧ keptInHost (Char.ofNat n) = true ∧
      Char.ofNat n ∉ forbiddenInHost := by
  decide +kernel

theorem inert_of_written {c : Char} (h : isUnreserved c = true ∨ c = '%') : Inert c := by
  have hlt : c.toNat < 128 := by
    rcases h with h | rfl
    · exact toNat_of_unreserved h
    · decide
  have hc := inert_ascii c.toNat hlt
  rw [Char.ofNat_toNat] at hc
  obtain ⟨hvisible, hinside, huser, hhost, hname⟩ := hc h
  exact ⟨hvisible, hinside, huser, hhost, hname⟩

theorem inert_of_alphanum {c : Char} (h : c.isAlphanum = true) : Inert c :=
  inert_of_written (.inl (by simp [isUnreserved, h]))

theorem inert_of_mem_enc {s : String} {c : Char} (h : c ∈ (enc s).toList) : Inert c :=
  inert_of_written (mem_enc h)

/-- The marks between the parts are not such characters. -/
theorem Inert.ne {c mark : Char} (h : Inert c) (hmark : mark ∈ forbiddenInHost) : c ≠ mark := by
  rintro rfl
  exact h.inName hmark

theorem Inert.inPath {c : Char} (h : Inert c) : keptInPath c = true := by
  have huser := h.inUser
  simp only [keptInUser, Bool.and_eq_true] at huser
  exact huser.1

/-! ## Parts -/

/-- Nothing is stripped from a text without blanks and controls. -/
theorem stripped_visible {s : List Char} (h : ∀ c ∈ s, 0x20 < c.toNat) : stripped s = s := by
  have hdrop : ∀ t : List Char, (∀ c ∈ t, 0x20 < c.toNat) →
      t.dropWhile (fun c => decide (c.toNat ≤ 0x20)) = t := by
    intro t ht
    refine (cut_append (s := []) (by simp) fun c hc => ?_).2
    have := ht c (List.mem_of_mem_head? hc)
    simpa using this
  unfold stripped
  dsimp only
  rw [hdrop s h, hdrop s.reverse fun c hc => h c (List.mem_reverse.mp hc), List.reverse_reverse,
    List.filter_eq_self]
  intro c hc
  have hvisible := h c hc
  have hne : ∀ d : Char, d.toNat ≤ 0x20 → c ≠ d := by
    rintro d hd rfl
    omega
  simp [hne '\t' (by decide), hne '\n' (by decide), hne '\r' (by decide)]

theorem cutUser_append {user host : List Char} (h : ∀ c ∈ host, c ≠ '@') :
    cutUser (user ++ '@' :: host) = (some user, host) := by
  have hreverse : (user ++ '@' :: host).reverse = host.reverse ++ '@' :: user.reverse := by simp
  obtain ⟨htake, hdrop⟩ := cut_append (p := fun c => decide (c ≠ '@')) (s := host.reverse)
    (t := '@' :: user.reverse) (fun c hc => by simpa using h c (List.mem_reverse.mp hc)) (by simp)
  rw [cutUser, hreverse, htake, hdrop, List.reverse_reverse]
  show (some user.reverse.reverse, host) = _
  rw [List.reverse_reverse]

theorem readUser_append {name password : List Char} (hname : ∀ c ∈ name, Inert c)
    (hpassword : ∀ c ∈ password, Inert c) (hne : password ≠ []) :
    readUser (name ++ ':' :: password) = (name, some password) := by
  obtain ⟨c, rest, rfl⟩ := List.exists_cons_of_ne_nil hne
  obtain ⟨htake, hdrop⟩ := cut_append (p := fun c => decide (c ≠ ':')) (s := name)
    (t := ':' :: c :: rest) (fun c hc => by simpa using (hname c hc).ne (by decide)) (by simp)
  rw [readUser, htake, hdrop, percentEncode_kept fun c hc => (hname c hc).inUser]
  show (name, some (percentEncode keptInUser (c :: rest))) = _
  rw [percentEncode_kept fun c hc => (hpassword c hc).inUser]

theorem cutHost_append {host rest : List Char} (h : ∀ c ∈ host, Inert c) :
    cutHost false (host ++ ':' :: rest) = (host, ':' :: rest) := by
  induction host with
  | nil => rfl
  | cons c host ih =>
    have hc := h c (by simp)
    have hcolon : c ≠ ':' := hc.ne (by decide)
    rw [List.cons_append, cutHost, if_neg (by simp [hcolon]), if_neg (hc.ne (by decide)),
      if_neg (hc.ne (by decide)), ih fun d hd => h d (by simp [hd])]

theorem readHost_inert {host : List Char} (h : ∀ c ∈ host, Inert c) : readHost host = .ok host := by
  unfold readHost
  split
  · exact absurd rfl ((h '[' (by simp)).ne (by decide))
  · rw [if_neg, percentEncode_kept fun c hc => (h c hc).inHost]
    simpa using fun c hc => (h c hc).inName

/-- The digits of a number in base ten are read as this number. -/
theorem digitsIn_ten {s : List Char} (h : ∀ c ∈ s, Number.isDigit c = true) :
    digitsIn 10 s = some (Number.digitsValue s) := by
  unfold digitsIn Number.digitsValue
  generalize 0 = n
  induction s generalizing n with
  | nil => rfl
  | cons c s ih =>
    have hc := h c (by simp)
    have hvalue : hexValue c = some (Number.digitValue c) := by
      simp only [Number.isDigit, Bool.and_eq_true, decide_eq_true_eq] at hc
      rw [hexValue, if_pos hc]
      rfl
    have hlt : Number.digitValue c < 10 := by
      have := Number.isDigit_iff.mp hc
      unfold Number.digitValue
      omega
    rw [List.foldlM_cons, hvalue, Option.bind_some, if_pos hlt]
    exact ih (fun d hd => h d (by simp [hd])) _

theorem readPort_written (port : UInt16) :
    readPort (toString port.toNat).toList = .ok (some port, []) := by
  obtain ⟨hne, hdigits, hvalue⟩ := Number.readDigits_iff.mp (Number.readDigits_repr port.toNat)
  obtain ⟨htake, hdrop⟩ := cut_all (p := Char.isDigit) fun c hc => by
    simp only [Char.isDigit, Bool.and_eq_true, decide_eq_true_eq]
    exact Number.isDigit_iff.mp (hdigits c hc)
  have hlt := port.toNat_lt
  show readPort port.toNat.repr.toList = _
  unfold readPort
  dsimp only
  rw [htake, hdrop, digitsIn_ten hdigits, hvalue]
  dsimp only
  rw [if_neg (by omega), if_pos (.inl rfl), if_neg hne, UInt16.ofNat_toNat]

theorem readPath_segment {segment : List Char} (h : ∀ c ∈ segment, Inert c)
    (hone : isSingleDot segment = false) (htwo : isDoubleDot segment = false) :
    readPath ('/' :: segment) = '/' :: segment := by
  have hmark : '/' ∉ segment := fun hm => (h '/' hm).ne (by decide) rfl
  have hquery : ∀ c ∈ '/' :: segment, (decide (c ≠ '?') && decide (c ≠ '#')) = true := by
    intro c hc
    rcases List.mem_cons.mp hc with rfl | hc
    · decide
    · have hne : c ≠ '?' ∧ c ≠ '#' := ⟨(h c hc).ne (by decide), (h c hc).ne (by decide)⟩
      simp [hne]
  have hsplit : splitAt '/' segment = [segment] := by
    have hparts : splitAt '/' (['/'].intercalate [segment]) = [segment] :=
      splitAt_intercalate (by simp) (by simpa using hmark)
    simpa using hparts
  rw [readPath, (cut_all hquery).1]
  show normalPath ('/' :: segment) = _
  rw [normalPath, List.drop_one, List.tail_cons, hsplit, List.map_singleton,
    percentEncode_kept fun c hc => (h c hc).inPath, walk, if_neg (by simp [htwo]),
    if_neg (by simp [hone])]
  rfl

theorem inert_of_port {port : UInt16} {c : Char} (h : c ∈ (toString port.toNat).toList) :
    Inert c := by
  obtain ⟨-, hdigits, -⟩ := Number.readDigits_iff.mp (Number.readDigits_repr port.toNat)
  exact inert_of_alphanum (isAlphanum_iff.mpr (.inr (Number.isDigit_iff.mp (hdigits c h))))

/-! ## Whole connection strings -/

theorem readAuthority_parts (scheme : List Char) {user password host database : List Char}
    (port : UInt16) (huser : ∀ c ∈ user, Inert c) (hpassword : ∀ c ∈ password, Inert c)
    (hpassword_ne : password ≠ []) (hhost : ∀ c ∈ host, Inert c) (hhost_ne : host ≠ [])
    (hdatabase : ∀ c ∈ database, Inert c) (hone : isSingleDot database = false)
    (htwo : isDoubleDot database = false) :
    readAuthority scheme ((user ++ ':' :: password) ++ '@' ::
        (host ++ ':' :: (toString port.toNat).toList) ++ '/' :: database) =
      .ok ⟨scheme, user, some password, some host, some port, '/' :: database⟩ := by
  have hmarks : endsAuthority ':' = false ∧ endsAuthority '@' = false := by decide
  have hinside : ∀ c ∈ (user ++ ':' :: password) ++ '@' ::
      (host ++ ':' :: (toString port.toNat).toList), (!endsAuthority c) = true := by
    intro c hc
    simp only [List.mem_append, List.mem_cons] at hc
    rcases hc with (hc | rfl | hc) | rfl | hc | rfl | hc
    · simp [(huser c hc).inside]
    · simp [hmarks.1]
    · simp [(hpassword c hc).inside]
    · simp [hmarks.2]
    · simp [(hhost c hc).inside]
    · simp [hmarks.1]
    · simp [(inert_of_port hc).inside]
  have hbehind : ∀ c ∈ ('/' :: database).head?, (!endsAuthority c) = false := by
    rintro c ⟨⟩
    decide
  obtain ⟨hauthority, hrest⟩ := cut_append hinside hbehind
  have hat : ∀ c ∈ host ++ ':' :: (toString port.toNat).toList, c ≠ '@' := by
    intro c hc
    simp only [List.mem_append, List.mem_cons] at hc
    rcases hc with hc | rfl | hc
    · exact (hhost c hc).ne (by decide)
    · decide
    · exact (inert_of_port hc).ne (by decide)
  unfold readAuthority
  simp only [hauthority, hrest, cutUser_append hat, Option.getD_some,
    readUser_append huser hpassword hpassword_ne, cutHost_append hhost, readHost_inert hhost,
    List.drop_one, List.tail_cons, readPort_written, bind, Except.bind]
  rw [if_neg (by simp), if_neg (by simp [hhost_ne]), if_neg (by simp [hhost_ne]), if_neg hhost_ne,
    List.nil_append, readPath_segment hdatabase hone htwo]

theorem cutScheme_append {scheme : String} (h : scheme ∈ ["mysql", "mariadb"]) (rest : List Char) :
    cutScheme (scheme.toList ++ ':' :: rest) = some (scheme.toList, rest) := by
  simp only [List.mem_cons, List.not_mem_nil, or_false] at h
  rcases h with rfl | rfl <;> rfl

theorem readParts_of_scheme {scheme : String} (h : scheme ∈ ["mysql", "mariadb"])
    {rest : List Char} (hvisible : ∀ c ∈ rest, 0x20 < c.toNat) :
    readParts (String.ofList (scheme.toList ++ ':' :: '/' :: '/' :: rest)) =
      readAuthority scheme.toList rest := by
  have hall : scheme.toList.all (fun c => 0x20 < c.toNat) = true := by
    simp only [List.mem_cons, List.not_mem_nil, or_false] at h
    rcases h with rfl | rfl <;> decide
  have hscheme : ∀ c ∈ scheme.toList, 0x20 < c.toNat := fun c hc =>
    of_decide_eq_true (List.all_eq_true.mp hall c hc)
  have htext : ∀ c ∈ scheme.toList ++ ':' :: '/' :: '/' :: rest, 0x20 < c.toNat := by
    intro c hc
    simp only [List.mem_append, List.mem_cons] at hc
    rcases hc with hc | rfl | rfl | rfl | hc
    · exact hscheme c hc
    · decide
    · decide
    · decide
    · exact hvisible c hc
  have hname : webSchemes.contains scheme = false ∧ scheme ≠ "file" := by
    simp only [List.mem_cons, List.not_mem_nil, or_false] at h
    rcases h with rfl | rfl <;> decide
  rw [readParts, String.toList_ofList, stripped_visible htext, cutScheme_append h]
  dsimp only
  rw [String.ofList_toList, if_neg (by rw [hname.1]; decide), if_neg hname.2]
  rfl

/-- Whatever is read, user and password are those of a text in front of the host. -/
theorem readAuthority_user {scheme s : List Char} {p : Parts} (h : readAuthority scheme s = .ok p) :
    ∃ userinfo, readUser userinfo = (p.user, p.password) := by
  unfold readAuthority at h
  dsimp only [bind, Except.bind] at h
  generalize (cutUser (s.takeWhile fun c => !endsAuthority c)) = cut at h
  refine ⟨cut.1.getD [], ?_⟩
  split at h
  · cases h
  · cases hhost : readHost (cutHost false cut.2).1 with
    | error flaw => simp [hhost] at h
    | ok host =>
      rw [hhost] at h
      dsimp only at h
      split at h
      · cases h
      · split at h
        · cases h
        · split at h
          · cases h
          · cases h
            rfl

theorem readParts_user {text : String} {p : Parts} (h : readParts text = .ok p) :
    ∃ userinfo, readUser userinfo = (p.user, p.password) := by
  have hnone : readUser [] = ([], none) := rfl
  have hmap : ∀ {checked : Except Flaw Unit} {scheme : List Char},
      checked.map (fun _ => (⟨scheme, [], none, none, none, []⟩ : Parts)) = .ok p →
      ∃ userinfo, readUser userinfo = (p.user, p.password) := by
    rintro (flaw | _) scheme ⟨⟩
    exact ⟨[], hnone⟩
  unfold readParts at h
  split at h
  · cases h
  · dsimp only at h
    split_ifs at h
    · exact hmap h
    · exact hmap h
    · split at h
      · exact readAuthority_user h
      · cases h
        exact ⟨[], hnone⟩
      · cases h
        exact ⟨[], hnone⟩

theorem read_user {text : String} {o : Overrides} (h : read text = .ok o) :
    ∃ userinfo, o.user = nonEmpty (readUser userinfo).1 ∧
      o.password = (readUser userinfo).2.map String.ofList := by
  unfold read at h
  cases hparts : readParts text with
  | error flaw =>
    rw [hparts] at h
    cases h
  | ok p =>
    rw [hparts] at h
    obtain ⟨userinfo, huser⟩ := readParts_user hparts
    dsimp only [bind, Except.bind] at h
    split at h
    · cases h
      exact ⟨userinfo, by rw [huser]; rfl, by rw [huser]; rfl⟩
    · cases h

theorem readUser_kept (userinfo : List Char) :
    (∀ c ∈ (readUser userinfo).1, keptInUser c = true) ∧
      ∀ password ∈ (readUser userinfo).2, ∀ c ∈ password, keptInUser c = true := by
  have hkept : ∀ (s : List Char), ∀ c ∈ percentEncode keptInUser s, keptInUser c = true := by
    intro s c hc
    rcases mem_percentEncode hc with h | h
    · exact h
    · exact (inert_of_written h).inUser
  unfold readUser
  dsimp only
  split
  · exact ⟨hkept _, by simp⟩
  · exact ⟨hkept _, by simp⟩
  · refine ⟨hkept _, ?_⟩
    rintro password ⟨⟩
    exact hkept _

end ConnectionString

open ConnectionString

namespace Endpoint

/-- All parts are there, the host is a name of small letters and digits, and the database is no
segment of dots. -/
structure Writable (e : Endpoint) : Prop where
  host_ne : e.host ≠ ""
  host : ∀ c ∈ e.host.toList, 'a' ≤ c ∧ c ≤ 'z' ∨ '0' ≤ c ∧ c ≤ '9'
  user : e.user ≠ ""
  password : e.password ≠ ""
  database : e.database ∉ ["", ".", ".."]

/-- The connection string of an endpoint. -/
def written (e : Endpoint) (scheme : String) : String :=
  scheme ++ "://" ++ enc e.user ++ ":" ++ enc e.password ++ "@" ++ e.host ++ ":" ++
    toString e.port.toNat ++ "/" ++ enc e.database

/-- An endpoint whose user, password and database are left encoded. -/
def encoded (e : Endpoint) : Endpoint :=
  { e with user := enc e.user, password := enc e.password, database := enc e.database }

/-- The overrides that set every field. -/
def overrides (e : Endpoint) : Overrides :=
  ⟨some e.host, some e.port, some e.user, some e.password, some e.database⟩

theorem overrides_inj {e f : Endpoint} : e.overrides = f.overrides ↔ e = f := by
  obtain ⟨host, port, user, password, database⟩ := e
  obtain ⟨host', port', user', password', database'⟩ := f
  simp [overrides]

/-- Nothing has to be encoded in a text of such characters. -/
theorem encoded_eq_self {e : Endpoint} : e.encoded = e ↔
    ∀ part ∈ [e.user, e.password, e.database], ∀ c ∈ part.toList, isUnreserved c = true := by
  obtain ⟨host, port, user, password, database⟩ := e
  simp [encoded, enc_eq_self]

theorem Writable.inert_host {e : Endpoint} (h : e.Writable) : ∀ c ∈ e.host.toList, Inert c := by
  intro c hc
  apply inert_of_alphanum
  rw [isAlphanum_iff]
  rcases h.host c hc with hletter | hdigit
  · exact .inl (.inr hletter)
  · exact .inr hdigit

theorem Writable.no_dots {e : Endpoint} (h : e.Writable) :
    isSingleDot (enc e.database).toList = false ∧ isDoubleDot (enc e.database).toList = false := by
  have hdots : ∀ n, unescapeDots (enc e.database).toList = List.replicate n '.' →
      e.database = String.ofList (List.replicate n '.') := by
    intro n hn
    rw [toList_enc] at hn
    rw [← unescapeDots_enc hn, String.ofList_toList]
  constructor
  · refine decide_eq_false fun hone => h.database ?_
    rw [hdots 1 hone]
    decide
  · refine decide_eq_false fun htwo => h.database ?_
    rw [hdots 2 htwo]
    decide

/-- A connection string is read as what was written into it, as far as this was not encoded. -/
theorem read_written {scheme : String} (hscheme : scheme ∈ ["mysql", "mariadb"]) {e : Endpoint}
    (he : e.Writable) :
    Overrides.ofConnectionString (e.written scheme) = .ok e.encoded.overrides := by
  obtain ⟨hone, htwo⟩ := he.no_dots
  have hhost_ne : e.host.toList ≠ [] := fun h => he.host_ne (String.toList_eq_nil_iff.mp h)
  have hdatabase_ne : (enc e.database).toList ≠ [] :=
    enc_ne_nil fun h => he.database (by simp [h])
  have huser : ∀ c ∈ (enc e.user).toList, Inert c := fun c => inert_of_mem_enc
  have hauthority := readAuthority_parts scheme.toList e.port huser (fun _ => inert_of_mem_enc)
    (enc_ne_nil he.password) he.inert_host hhost_ne (fun _ => inert_of_mem_enc) hone htwo
  have htext : e.written scheme = String.ofList (scheme.toList ++ ':' :: '/' :: '/' ::
      (((enc e.user).toList ++ ':' :: (enc e.password).toList) ++ '@' ::
        (e.host.toList ++ ':' :: (toString e.port.toNat).toList) ++ '/' ::
          (enc e.database).toList)) := by
    rw [← String.toList_inj, String.toList_ofList]
    simp [written, String.toList_append]
  have hvisible : ∀ c ∈ ((enc e.user).toList ++ ':' :: (enc e.password).toList) ++ '@' ::
      (e.host.toList ++ ':' :: (toString e.port.toNat).toList) ++ '/' :: (enc e.database).toList,
      0x20 < c.toNat := by
    intro c hc
    simp only [List.mem_append, List.mem_cons] at hc
    rcases hc with ((hc | rfl | hc) | rfl | hc | rfl | hc) | rfl | hc
    · exact (inert_of_mem_enc hc).visible
    · decide
    · exact (inert_of_mem_enc hc).visible
    · decide
    · exact (he.inert_host c hc).visible
    · decide
    · exact (inert_of_port hc).visible
    · decide
    · exact (inert_of_mem_enc hc).visible
  have hscheme' : scheme = "mysql" ∨ scheme = "mariadb" := by simpa using hscheme
  rw [Overrides.ofConnectionString, ConnectionString.read, htext,
    readParts_of_scheme hscheme hvisible, hauthority]
  simp [hscheme', bind, Except.bind, Parts.overrides, overrides, encoded, nonEmpty,
    enc_ne_nil he.user, hdatabase_ne]

theorem ofConnectionString_ok {text : String} {o : Overrides} :
    Overrides.ofConnectionString text = .ok o ↔ ConnectionString.read text = .ok o := by
  unfold Overrides.ofConnectionString
  cases ConnectionString.read text <;> simp

/-- Neither user nor password, as they are read, have a character that is encoded in them. -/
theorem read_kept {text : String} {o : Overrides} (h : Overrides.ofConnectionString text = .ok o)
    {part : String} (hpart : o.user = some part ∨ o.password = some part) :
    ∀ c ∈ part.toList, keptInUser c = true := by
  obtain ⟨userinfo, huser, hpassword⟩ := read_user (ofConnectionString_ok.mp h)
  obtain ⟨hkept_user, hkept_password⟩ := readUser_kept userinfo
  rw [huser, hpassword] at hpart
  rcases hpart with hpart | hpart
  · unfold nonEmpty at hpart
    split at hpart
    · cases hpart
    · cases hpart
      rwa [String.toList_ofList]
  · obtain ⟨password, hmem, rfl⟩ := Option.map_eq_some_iff.mp hpart
    rw [String.toList_ofList]
    exact hkept_password password hmem

end Endpoint

/-- Host and port are read from a connection string as they were written. The other parts come out
encoded: they are what was written just if nothing in them had to be encoded, and else only decoding
them would give them back. No other connection string helps, since none gives a user or a password
with a character that is encoded in it. -/
theorem ofConnectionString_written {scheme : String} (hscheme : scheme ∈ ["mysql", "mariadb"])
    {e : Endpoint} (he : e.Writable) :
    Overrides.ofConnectionString (e.written scheme) = .ok e.encoded.overrides ∧
    (Overrides.ofConnectionString (e.written scheme) = .ok e.overrides ↔
      ∀ part ∈ [e.user, e.password, e.database], ∀ c ∈ part.toList, isUnreserved c = true) ∧
    (∀ part, Utf8.decodeString (percentDecode (enc part).toList) = .ok part) ∧
    ∀ (text : String) (o : Overrides), Overrides.ofConnectionString text = .ok o →
      ∀ part, o.user = some part ∨ o.password = some part →
        ∀ c ∈ part.toList, keptInUser c = true := by
  have hread := Endpoint.read_written hscheme he
  refine ⟨hread, ?_, fun part => ?_, fun text o h part => Endpoint.read_kept h⟩
  · rw [hread, Except.ok.injEq, Endpoint.overrides_inj, Endpoint.encoded_eq_self]
  · rw [percentDecode_enc]
    exact Utf8.decodeString_encodeString part

/-- A reader of a shop, with this password. -/
def shopReader (password : String) : Endpoint := ⟨"db", 3307, "reader", password, "shop"⟩

theorem shopReader_writable {password : String} (h : password ≠ "") :
    (shopReader password).Writable where
  host_ne := show "db" ≠ "" by decide
  host c hc := by
    have hletters : "db".toList.all (fun c => 'a' ≤ c && c ≤ 'z') = true := by decide
    have hletter := List.all_eq_true.mp hletters c hc
    simp only [Bool.and_eq_true, decide_eq_true_eq] at hletter
    exact .inl hletter
  user := show "reader" ≠ "" by decide
  password := h
  database := show "shop" ∉ ["", ".", ".."] by decide

theorem shopReader_written :
    Overrides.ofConnectionString "mysql://reader:p%40ss@db:3307/shop" =
      .ok (shopReader "p%40ss").overrides ∧
    Overrides.ofConnectionString "mariadb://reader:pw@db:3307/shop" =
      .ok (shopReader "pw").overrides := by
  have hwritable : (shopReader "p@ss").Writable ∧ (shopReader "pw").Writable :=
    ⟨shopReader_writable (by decide), shopReader_writable (by decide)⟩
  have hschemes : "mysql" ∈ ["mysql", "mariadb"] ∧ "mariadb" ∈ ["mysql", "mariadb"] := by decide
  have hmysql := ofConnectionString_written hschemes.1 hwritable.1
  have hmariadb := ofConnectionString_written hschemes.2 hwritable.2
  have hplain : ["reader", "pw", "shop"].all (fun part => part.toList.all isUnreserved) = true := by
    decide
  refine ⟨hmysql.1, hmariadb.2.1.mpr fun part hpart => ?_⟩
  exact List.all_eq_true.mp (List.all_eq_true.mp hplain part hpart)

/-- A password with a sign that ends the user's part comes out as it was encoded. -/
theorem shopReader_lost :
    (shopReader "p@ss").Writable ∧
    (shopReader "p@ss").written "mysql" = "mysql://reader:p%40ss@db:3307/shop" ∧
    Overrides.ofConnectionString ((shopReader "p@ss").written "mysql") =
      .ok ⟨some "db", some 3307, some "reader", some "p%40ss", some "shop"⟩ ∧
    Overrides.ofConnectionString ((shopReader "p@ss").written "mysql") ≠
      .ok (shopReader "p@ss").overrides := by
  refine ⟨shopReader_writable (by decide), by decide, by decide +kernel, by decide +kernel⟩

end SqlGuard
