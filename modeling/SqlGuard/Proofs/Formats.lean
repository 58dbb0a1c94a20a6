import SqlGuard.Proofs.Containment
import SqlGuard.Proofs.Objects
import SqlGuard.Proofs.Tables

/-!
# Both formats

A list of entries with distinct names can be written in either format, and both
are loaded by the same rule: as the endpoint that the entries describe, or not at
all if they are not acceptable (`load_described`).

* `isJsonName_iff`: which files are read as an object.
-/
namespace SqlGuard.Profile

open Text

/-! ## Names of files -/

section Paths

variable {mark : Char} {s t folder name slashes ext : List Char}

theorem splitAt_ne_nil (mark : Char) (s : List Char) : splitAt mark s ≠ [] := by
  rw [splitAt_eq_splitOn]
  exact List.splitOn_ne_nil mark s

theorem splitAt_append_mark (mark : Char) (s t : List Char) :
    splitAt mark (s ++ mark :: t) = splitAt mark s ++ splitAt mark t := by
  induction s with
  | nil =>
    obtain ⟨part, parts, ht⟩ := List.exists_cons_of_ne_nil (splitAt_ne_nil mark t)
    have hmark : splitAt mark (mark :: t) = [] :: part :: parts := by
      rw [splitAt, ht]
      exact if_pos rfl
    rw [List.nil_append, hmark, ht]
    rfl
  | cons c s ih =>
    obtain ⟨part, parts, hs⟩ := List.exists_cons_of_ne_nil (splitAt_ne_nil mark s)
    rw [List.cons_append, splitAt, ih, splitAt, hs]
    dsimp only [List.cons_append]
    split <;> rfl

theorem splitAt_of_not_mem (h : mark ∉ s) : splitAt mark s = [s] := by
  have hfree : ∀ part ∈ [s], mark ∉ part := by simpa using h
  have hs := splitAt_intercalate (List.cons_ne_nil s []) hfree
  rwa [List.intercalate_singleton] at hs

/-- The characters of one kind at the end of a text. -/
theorem exists_ending (fits : Char → Bool) (s : List Char) :
    ∃ front back, s = front ++ back ∧ (∀ c ∈ back, fits c = true) ∧
      ∀ c ∈ front.getLast?, fits c = false := by
  induction s using List.reverseRecOn with
  | nil => exact ⟨[], [], rfl, by simp, by simp⟩
  | append_singleton s c ih =>
    cases hc : fits c with
    | true =>
      obtain ⟨front, back, rfl, hback, hfront⟩ := ih
      refine ⟨front, back ++ [c], List.append_assoc .., fun d hd => ?_, hfront⟩
      rcases List.mem_append.mp hd with hd | hd
      · exact hback d hd
      · rwa [List.mem_singleton.mp hd]
    | false => exact ⟨s ++ [c], [], by simp, by simp, by simpa using hc⟩

theorem takeWhile_ending {fits : Char → Bool} (hback : ∀ c ∈ t, fits c = true)
    (hfront : ∀ c ∈ s.getLast?, fits c = false) :
    ((s ++ t).reverse.takeWhile fits).reverse = t := by
  rw [List.reverse_append, List.takeWhile_append_of_pos (by simpa using hback)]
  have hnil : s.reverse.takeWhile fits = [] := by
    rw [← List.head?_reverse] at hfront
    cases hs : s.reverse with
    | nil => rfl
    | cons c u =>
      rw [hs] at hfront
      exact List.takeWhile_cons_of_neg (by rw [hfront c rfl]; decide)
  rw [hnil, List.append_nil, List.reverse_reverse]

/-- What follows the last dot, unless nothing stands in front of it. -/
theorem extension_eq_some_iff :
    extension name = some ext ↔ ∃ stem, stem ≠ [] ∧ '.' ∉ ext ∧ name = stem ++ '.' :: ext := by
  obtain ⟨front, back, rfl, hback, hfront⟩ := exists_ending (· ≠ '.') name
  have hdot : '.' ∉ back := fun h => absurd (hback '.' h) (by decide)
  rw [extension, takeWhile_ending hback hfront]
  constructor
  · intro h
    split at h
    · rename_i hlength
      cases h
      rw [List.length_append] at hlength
      rcases List.eq_nil_or_concat front with rfl | ⟨stem, c, rfl⟩
      · simp at hlength
      · have hc := hfront c (by simp)
        obtain rfl : c = '.' := by simpa using hc
        refine ⟨stem, ?_, hdot, by simp⟩
        rintro rfl
        simp at hlength
        omega
    · cases h
  · rintro ⟨stem, hne, hext, heq⟩
    have hback' := takeWhile_ending hback hfront
    have hstem : ((stem ++ ['.'] ++ ext).reverse.takeWhile (· ≠ '.')).reverse = ext :=
      takeWhile_ending (fun c hc => decide_eq_true (by rintro rfl; exact hext hc)) (by simp)
    have hsame : stem ++ ['.'] ++ ext = front ++ back := by rw [heq]; simp
    rw [hsame, hback'] at hstem
    subst hstem
    have hlength := List.length_pos_iff.mpr hne
    rw [heq, if_pos]
    rw [List.length_append, List.length_cons]
    omega

theorem filter_splitAt_marks (h : ∀ c ∈ s, c = mark) : (splitAt mark s).filter (· ≠ []) = [] := by
  induction s with
  | nil => rfl
  | cons c s ih =>
    obtain ⟨rfl, h⟩ := List.forall_mem_cons.mp h
    have hsplit := splitAt_append_mark c [] s
    rw [List.nil_append] at hsplit
    rw [hsplit, List.filter_append, ih h]
    rfl

/-- The last name on a path, with slashes behind it. -/
theorem fileName_append (hfolder : folder = [] ∨ folder.getLast? = some '/') (hne : name ≠ [])
    (hname : '/' ∉ name) (hslashes : ∀ c ∈ slashes, c = '/') :
    fileName (folder ++ (name ++ slashes)) = name := by
  have hlast : ((splitAt '/' (name ++ slashes)).filter (· ≠ [])) = [name] := by
    have hself : [name].filter (· ≠ []) = [name] := by simp [hne]
    cases slashes with
    | nil => rw [List.append_nil, splitAt_of_not_mem hname, hself]
    | cons c slashes =>
      obtain ⟨rfl, hrest⟩ := List.forall_mem_cons.mp hslashes
      rw [splitAt_append_mark, List.filter_append, filter_splitAt_marks hrest,
        splitAt_of_not_mem hname, hself, List.append_nil]
  rcases hfolder with rfl | hfolder
  · rw [List.nil_append, fileName, hlast]
    rfl
  · obtain ⟨front, rfl⟩ := List.getLast?_eq_some_iff.mp hfolder
    rw [List.append_assoc, fileName, List.singleton_append, splitAt_append_mark, List.filter_append,
      hlast, List.getLast?_append]
    rfl

/-- The last name of a path ends in `.json`, in any case of its letters, and does not begin with
that dot. -/
inductive JsonPath : List Char → Prop
  | mk {folder stem ext slashes : List Char} (hfolder : folder = [] ∨ folder.getLast? = some '/')
    (hne : stem ≠ []) (hstem : '/' ∉ stem) (hext : ext.map Char.toLower = ['j', 's', 'o', 'n'])
    (hslashes : ∀ c ∈ slashes, c = '/') : JsonPath (folder ++ (stem ++ '.' :: ext ++ slashes))

theorem asciiSmall_eq_toLower (c : Char) : asciiSmall c = c.toLower := by
  unfold asciiSmall Char.toLower
  split
  · rename_i h
    have hlow : 65 ≤ c.toNat := h.1
    have hhigh : c.toNat ≤ 90 := h.2
    have hletter : c.val ≥ 'A'.val ∧ c.val ≤ 'Z'.val := h
    rw [dif_pos hletter]
    refine Char.ext (UInt32.toNat_inj.mp ?_)
    show (Char.ofNat (c.toNat + 32)).toNat = (c.toNat + 32) % 2 ^ 32
    rw [toNat_ofNat (by omega), Nat.mod_eq_of_lt (by omega)]
  · rename_i h
    have hletter : ¬(c.val ≥ 'A'.val ∧ c.val ≤ 'Z'.val) := h
    rw [dif_neg hletter]

theorem fileName_slashes (h : ∀ c ∈ slashes, c = '/') : fileName slashes = [] := by
  rw [fileName, filter_splitAt_marks h]
  rfl

/-- A path leads to a name, unless there are only slashes on it. -/
theorem exists_fileName (path : List Char) (h : fileName path ≠ []) :
    ∃ folder slashes, path = folder ++ (fileName path ++ slashes) ∧
      (folder = [] ∨ folder.getLast? = some '/') ∧ '/' ∉ fileName path ∧
      ∀ c ∈ slashes, c = '/' := by
  obtain ⟨body, slashes, rfl, hslashes, hbody⟩ := exists_ending (· = '/') path
  obtain ⟨folder, name, rfl, hname, hfolder⟩ := exists_ending (· ≠ '/') body
  have hslashes : ∀ c ∈ slashes, c = '/' := fun c hc => by simpa using hslashes c hc
  have hname' : '/' ∉ name := fun h => absurd (hname '/' h) (by decide)
  have hfolder' : folder = [] ∨ folder.getLast? = some '/' := by
    rcases List.eq_nil_or_concat folder with rfl | ⟨front, c, rfl⟩
    · exact .inl rfl
    · have hc := hfolder c (by simp)
      obtain rfl : c = '/' := by simpa using hc
      exact .inr (by simp)
  have hne : name ≠ [] := by
    rintro rfl
    rw [List.append_nil] at hbody h
    rcases hfolder' with rfl | hlast
    · exact h (fileName_slashes hslashes)
    · exact absurd (hbody '/' hlast) (by decide)
  have hfile := fileName_append hfolder' hne hname' hslashes
  rw [← List.append_assoc] at hfile
  exact ⟨folder, slashes, by rw [hfile, List.append_assoc], hfolder', by rwa [hfile], hslashes⟩

theorem isJsonName_iff (path : String) : isJsonName path = true ↔ JsonPath path.toList := by
  rw [isJsonName, decide_eq_true_eq, Option.map_eq_some_iff]
  have hmap (ext : List Char) : ext.map asciiSmall = ext.map Char.toLower :=
    List.map_congr_left fun c _ => asciiSmall_eq_toLower c
  constructor
  · rintro ⟨ext, hext, hjson⟩
    obtain ⟨stem, hne, -, hname⟩ := extension_eq_some_iff.mp hext
    obtain ⟨folder, slashes, hpath, hfolder, hslash, hslashes⟩ :=
      exists_fileName path.toList (by rw [hname]; simp)
    rw [hpath, hname]
    rw [hname] at hslash
    exact .mk hfolder hne (fun h => hslash (by simp [h])) (hmap ext ▸ hjson) hslashes
  · generalize path.toList = path
    rintro ⟨hfolder, hne, hstem, hext, hslashes⟩
    rename_i folder stem ext slashes
    have hmem {c : Char} (hc : c.toLower ∉ ['j', 's', 'o', 'n']) : c ∉ ext := fun h =>
      hc (hext ▸ List.mem_map_of_mem h)
    have hfile : fileName (folder ++ (stem ++ '.' :: ext ++ slashes)) = stem ++ '.' :: ext :=
      fileName_append hfolder (by simp)
        (by simp [hstem, hmem (c := '/') (by decide)]) hslashes
    refine ⟨ext, ?_, (hmap ext).trans hext⟩
    rw [hfile]
    exact extension_eq_some_iff.mpr ⟨stem, hne, hmem (by decide), rfl⟩

end Paths

/-! ## Loading entries -/

section Load

variable {entries : List Entry} {document : List Char} {path : String}

/-- A text in a file is read in the format that the name of the file stands for. -/
theorem load_encoded (path : String) (document : List Char) :
    load path (.file (Utf8.encode document)) =
      if isJsonName path then ofJson path (Utf8.encode document) else ofToml path document := by
  have hdecode : Utf8.decode (Utf8.encode document) = .ok document :=
    Utf8.decodeFrom_encode 0 document
  rw [load, hdecode]

theorem load_object (distinct : (names entries).Nodup) (h : Json.Object document entries)
    (hpath : JsonPath path.toList) (e : Endpoint) :
    load path (.file (Utf8.encode document)) = .ok e ↔ Describes entries e := by
  rw [← ofEntries_settings distinct, ← Json.readJson_object h, load_encoded,
    if_pos ((isJsonName_iff path).mpr hpath), ofJson]
  cases readJson (Utf8.encode document) with
  | error fault => exact ⟨(nomatch ·), (nomatch ·)⟩
  | ok e' => exact ⟨fun h => by cases h; rfl, fun h => by cases h; rfl⟩

theorem load_table (distinct : (names entries).Nodup) (h : Toml.Table document entries)
    (hpath : ¬JsonPath path.toList) (e : Endpoint) :
    load path (.file (Utf8.encode document)) = .ok e ↔ Describes entries e := by
  rw [← ofEntries_settings distinct, ← Toml.read_table h distinct, load_encoded,
    if_neg (fun h => hpath ((isJsonName_iff path).mp h)), ofToml]
  cases Toml.read document with
  | error fault => exact ⟨(nomatch ·), (nomatch ·)⟩
  | ok e' => exact ⟨fun h => by cases h; rfl, fun h => by cases h; rfl⟩

/-- Distinct names with values can be written as an object and as a table. In a file whose name ends
in `.json` the object, and in any other file the table, is loaded as the endpoint that the entries
describe. There is one just if the entries are acceptable. Else the fault is one of the
configuration. -/
theorem load_described (distinct : (names entries).Nodup) :
    (∃ object, Json.Object object entries) ∧ (∃ table, Toml.Table table entries) ∧
      ∀ {object table : List Char} {jsonPath tomlPath : String}, Json.Object object entries →
        Toml.Table table entries → JsonPath jsonPath.toList → ¬JsonPath tomlPath.toList →
        let fromJson := load jsonPath (.file (Utf8.encode object))
        let fromToml := load tomlPath (.file (Utf8.encode table))
        (∀ e, fromJson = .ok e ↔ Describes entries e) ∧
          (∀ e, fromToml = .ok e ↔ Describes entries e) ∧
          ((∃ e, fromJson = .ok e) ↔ Acceptable entries) ∧
          ((∃ e, fromToml = .ok e) ↔ Acceptable entries) ∧
          fromJson.toOption = fromToml.toOption ∧
          (∀ fault, fromJson = .error fault → ∃ detail, fault = .config detail) ∧
          ∀ fault, fromToml = .error fault → ∃ detail, fault = .config detail := by
  refine ⟨Json.exists_object entries, Toml.exists_table entries, ?_⟩
  intro object table jsonPath tomlPath hobject htable hjson htoml fromJson fromToml
  have hfromJson : ∀ e, fromJson = .ok e ↔ Describes entries e := load_object distinct hobject hjson
  have hfromToml : ∀ e, fromToml = .ok e ↔ Describes entries e := load_table distinct htable htoml
  have hoption (result : Except Fault Endpoint) (e : Endpoint) :
      result.toOption = some e ↔ result = .ok e := by
    cases result <;> simp [Except.toOption]
  refine ⟨hfromJson, hfromToml, ?_, ?_, ?_, fun _ => load_error, fun _ => load_error⟩
  · simp only [hfromJson, acceptable_iff]
  · simp only [hfromToml, acceptable_iff]
  · refine Option.ext fun e => ?_
    rw [hoption, hoption, hfromJson, hfromToml]

/-- A server without a password and a database, and a name that has no meaning. -/
def served : List Entry :=
  [("host", .text "db"), ("port", .integer 3307), ("user", .text "me"), ("debug", .bool true)]

def servedObject : String :=
  "\x7b\"host\": \"db\", \"port\": 3307,\n \"user\": \"m\\u0065\", \"debug\": true\x7d"

def servedTable : String :=
  "host = \"db\" # not mine\n\nport = 3_307\r\nuser = 'me'\ndebug = true"

theorem object_served : Json.Object servedObject.toList served := by
  have hnone : Json.Blanks [] := by simp [Json.Blanks]
  have hblank : Json.Blanks [' '] := by simp [Json.Blanks]
  have hbreak : Json.Blanks ['\n', ' '] := by simp [Json.Blanks]
  have hquoted {t : List Char} (h : (t.all fun c => Json.Verbatim c) = true) :
      Json.Quoted ('"' :: (t ++ ['"'])) (String.ofList t) :=
    .mk (written_self (List.all_iff_forall_prop.mp h))
  have hname {t v : List Char} {value : Plain} (h : (t.all fun c => Json.Verbatim c) = true)
      (hv : Json.Value v value) := Json.Member.mk (hquoted h) hnone hblank hv
  have hescape : Json.Escape ['u', '0', '0', '6', '5'] 'e' :=
    .number rfl ⟨[0, 0, 6, 5], rfl, rfl⟩
  have huser := Json.Quoted.mk (.plain (show Json.Verbatim 'm' by decide) (.escape hescape .nil))
  have hmembers := Json.Members.first hnone
    (hname (t := ['h', 'o', 's', 't']) rfl (.text (hquoted (t := ['d', 'b']) rfl))) <|
    .next hnone hblank (hname (t := ['p', 'o', 'r', 't']) rfl (.integer 3307)) <|
    .next hnone hbreak (hname (t := ['u', 's', 'e', 'r']) rfl (.text huser)) <|
    .next hnone hblank (hname (t := ['d', 'e', 'b', 'u', 'g']) rfl .true) <|
    .close hnone
  have hwritten : Json.Object _ served := .mk hnone hmembers hnone
  exact Eq.subst (motive := (Json.Object · served)) (by decide) hwritten

theorem table_served : Toml.Table servedTable.toList served := by
  have hnone : Toml.Blanks [] := by simp [Toml.Blanks]
  have hblank : Toml.Blanks [' '] := by simp [Toml.Blanks]
  have hname {k v b c : List Char} {value : Plain} (hne : k ≠ [])
      (h : (k.all fun c => Toml.Bare c) = true) (hv : Toml.Value v value) (hb : Toml.Blanks b)
      (hc : Toml.Comment c) :=
    Toml.Line.entry hnone (.bare hne (List.all_iff_forall_prop.mp h)) hblank hblank hv hb hc
  have hdb : Toml.Quoted ['"', 'd', 'b', '"'] ['d', 'b'] :=
    .line (.basic (w := ['d', 'b']) (written_self (List.all_iff_forall_prop.mp rfl)))
  have hliteral : ∀ c ∈ ['m', 'e'], Toml.Literal c := List.all_iff_forall_prop.mp rfl
  have hme : Toml.Quoted ['\x27', 'm', 'e', '\x27'] ['m', 'e'] := .line (.literal hliteral)
  have hport : Toml.Integer ['3', '_', '3', '0', '7'] 3307 :=
    .bare (.positive (.spaced rfl (.more rfl (.more rfl (.one rfl)))) (by decide))
  have hremark : Toml.Comment "# not mine".toList :=
    .some (w := " not mine".toList) (List.all_iff_forall_prop.mp rfl)
  have hlines := Toml.Lines.more
    (hname (k := ['h', 'o', 's', 't']) (by simp) rfl (.text hdb) hblank hremark) .feed <|
    .more (.blank hnone .none) .feed <|
    .more (hname (k := ['p', 'o', 'r', 't']) (by simp) rfl (.integer (n := 3307) hport) hnone
      .none) .carriage <|
    .more (hname (k := ['u', 's', 'e', 'r']) (by simp) rfl (.text hme) hnone .none) .feed <|
    .last (hname (k := ['d', 'e', 'b', 'u', 'g']) (by simp) rfl .true hnone .none)
  have hwritten : Toml.Table _ served := .bare hlines
  exact Eq.subst (motive := (Toml.Table · served)) (by decide) hwritten

/-- The same server from both formats. -/
theorem load_served :
    let e : Endpoint := ⟨"db", 3307, "me", "", ""⟩
    load "conf/Server.JSON" (.file (Utf8.encode servedObject.toList)) = .ok e ∧
      load "server.conf" (.file (Utf8.encode servedTable.toList)) = .ok e := by
  intro e
  have hdescribes : Describes served e := {
    host := by decide
    user := by decide
    port := .inr ⟨3307, by decide, rfl⟩
    password := .inl ⟨by decide, rfl⟩
    database := .inl ⟨by decide, rfl⟩ }
  have hslashes : ∀ c ∈ [], c = '/' := by simp
  have hjson : JsonPath "conf/Server.JSON".toList :=
    @JsonPath.mk "conf/".toList "Server".toList "JSON".toList [] (by decide) (by decide)
      (by decide) (by decide) hslashes
  have htoml : ¬JsonPath "server.conf".toList := by
    rw [← isJsonName_iff]
    decide
  have hdistinct : (names served).Nodup := by decide
  obtain ⟨-, -, hload⟩ := load_described hdistinct
  obtain ⟨hfromJson, hfromToml, -⟩ := hload object_served table_served hjson htoml
  exact ⟨(hfromJson e).mpr hdescribes, (hfromToml e).mpr hdescribes⟩

end Load

end SqlGuard.Profile
