import SqlGuard.Proofs.Keywords

/-!
# Verdicts of the policy

`Judges` says which verdict a text gets, for any list of words to begin with and
any list of words that may stand nowhere. The policy gives just this verdict on
the capitals of a text without blanks around it, where it does not matter
whether the blanks or the small letters go first.

* `classify_documented`: every verdict is the documented one, and two words of
  the lists could be left out without a difference.
* `classify_context`: a forbidden word is found whatever stands around it, and a
  good beginning stays one whatever follows.
-/
namespace SqlGuard.Text

/-! ## Capitals between blanks -/

theorem toNat_ofNat_or (n : Nat) : (Char.ofNat n).toNat = n ∨ (Char.ofNat n).toNat = 0 := by
  by_cases hv : n.isValidChar
  · rw [Char.ofNat, dif_pos hv]
    exact .inl rfl
  · rw [Char.ofNat, dif_neg hv]
    exact .inr rfl

/-- No run of the table of capitals leads to a blank. -/
theorem capitalRuns_image : ∀ r ∈ capitalRuns, ∀ b ∈ blanks,
    r.2.2.2 + (r.2.1 - r.1) < b.1 ∨ b.2 < r.2.2.2 := by
  decide +kernel

theorem capitalWords_image : ∀ w ∈ capitalWords,
    w.2 ≠ [] ∧ ∀ n ∈ w.2, isBlank (Char.ofNat n) = false := by
  decide +kernel

theorem isBlank_imageIn {n code : Nat} (h : imageIn capitalRuns n = some code) :
    isBlank (Char.ofNat code) = false := by
  obtain ⟨⟨first, last, stride, image⟩, hr, hcode⟩ := List.exists_of_findSome?_eq_some h
  dsimp only at hcode
  split at hcode
  · rename_i hn
    simp only [Option.some.injEq] at hcode
    rw [Bool.eq_false_iff]
    intro hblank
    obtain ⟨b, hb, h1, h2⟩ := inRanges_iff.mp hblank
    have himage := capitalRuns_image _ hr b hb
    have hlow : ∀ b ∈ blanks, 0 < b.1 := by decide
    have := hlow b hb
    dsimp only at himage
    rcases toNat_ofNat_or code with hc | hc <;> omega
  · cases hcode

/-- A character that is no blank has capitals, and none of them is a blank. -/
theorem capital_of_not_blank {c : Char} (h : isBlank c = false) :
    capital c ≠ [] ∧ ∀ d ∈ capital c, isBlank d = false := by
  unfold capital formIn
  split
  · rename_i word hw
    obtain ⟨before, after, he, -⟩ := List.lookup_eq_some_iff.mp hw
    obtain ⟨hne, hall⟩ := capitalWords_image (c.toNat, word) (by rw [he]; simp)
    refine ⟨by simpa using hne, fun d hd => ?_⟩
    obtain ⟨n, hn, rfl⟩ := List.mem_map.mp hd
    exact hall n hn
  · split
    · rename_i code hcode
      refine ⟨by simp, fun d hd => ?_⟩
      rw [List.mem_singleton.mp hd]
      exact isBlank_imageIn hcode
    · refine ⟨by simp, fun d hd => ?_⟩
      rw [List.mem_singleton.mp hd]
      exact h

/-- There is no blank at either end of the text. -/
structure Bare (s : List Char) : Prop where
  first : ∀ c ∈ s.head?, isBlank c = false
  last : ∀ c ∈ s.getLast?, isBlank c = false

theorem not_blank_dropWhile {s : List Char} {c : Char} (h : c ∈ (s.dropWhile isBlank).head?) :
    isBlank c = false := by
  have hhead := List.head?_dropWhile_not isBlank s
  rwa [Option.mem_def.mp h] at hhead

theorem trim_bare (s : List Char) : Bare (trim s) := by
  refine ⟨fun c hc => ?_, fun c hc => ?_⟩
  · obtain ⟨-, back, -, -, -, hback⟩ := trim_spec s
    refine not_blank_dropWhile (s := s) ?_
    show c ∈ (trimStart s).head?
    rw [hback, List.head?_append, Option.mem_def.mp hc]
    rfl
  · unfold trim trimEnd at hc
    rw [List.getLast?_reverse] at hc
    exact not_blank_dropWhile hc

theorem dropWhile_bare {s front : List Char} (h : ∀ c ∈ s.head?, isBlank c = false)
    (hfront : ∀ c ∈ front, isBlank c = true) : (front ++ s).dropWhile isBlank = s := by
  rw [List.dropWhile_append_of_pos hfront]
  cases s with
  | nil => rfl
  | cons c r => exact List.dropWhile_cons_of_neg (by simp [h c rfl])

/-- Of a text between blanks, the blanks are cut off. -/
theorem trim_of_bare {front s back : List Char} (h : Bare s)
    (hfront : ∀ c ∈ front, isBlank c = true)
    (hback : ∀ c ∈ back, isBlank c = true) : trim (front ++ s ++ back) = s := by
  have hend : trimEnd (s ++ back) = s := by
    unfold trimEnd
    rw [List.reverse_append, dropWhile_bare, List.reverse_reverse]
    · simpa using h.last
    · simpa using hback
  by_cases hs : s = []
  · subst hs
    have hall : ∀ c ∈ front ++ [] ++ back, isBlank c = true := by
      intro c hc
      rcases List.mem_append.mp hc with hc | hc
      · exact hfront c (by simpa using hc)
      · exact hback c hc
    rw [trim, trimStart, List.dropWhile_eq_nil_iff.mpr hall]
    rfl
  · have hstart : trimStart (front ++ s ++ back) = s ++ back := by
      unfold trimStart
      rw [List.append_assoc, dropWhile_bare _ hfront]
      intro c hc
      cases s with
      | nil => exact absurd rfl hs
      | cons d r => exact h.first c hc
    rw [trim, hstart, hend]

theorem Bare.capitals {s : List Char} (h : Bare s) : Bare (capitals s) := by
  constructor
  · intro d hd
    cases s with
    | nil => cases hd
    | cons c r =>
      obtain ⟨hne, hall⟩ := capital_of_not_blank (h.first c rfl)
      rw [Text.capitals, List.flatMap_cons, List.head?_append] at hd
      cases hc : capital c with
      | nil => exact absurd hc hne
      | cons d' r' =>
        rw [hc] at hd hall
        cases hd
        exact hall d (by simp)
  · intro d hd
    rcases List.eq_nil_or_concat s with rfl | ⟨r, c, rfl⟩
    · cases hd
    · obtain ⟨hne, hall⟩ := capital_of_not_blank (h.last c (by simp))
      have hcap : Text.capitals [c] = capital c := List.flatMap_singleton ..
      rw [List.concat_eq_append, capitals_append, hcap, List.getLast?_append] at hd
      cases hc : (capital c).getLast? with
      | none => exact absurd (List.getLast?_eq_none_iff.mp hc) hne
      | some d' =>
        rw [hc] at hd
        cases hd
        exact hall d (List.mem_of_getLast? hc)

/-- Blanks may be cut off before or behind the letters are made capital. -/
theorem trim_capitals (s : List Char) : trim (capitals s) = capitals (trim s) := by
  obtain ⟨front, back, hfront, hback, hs, hs'⟩ := trim_spec s
  have hcap : capitals s = front ++ capitals (trim s) ++ back := by
    conv => lhs; rw [hs, hs']
    rw [capitals_append, capitals_append, capitals_of_blanks hfront, capitals_of_blanks hback,
      List.append_assoc]
  rw [hcap, trim_of_bare (trim_bare s).capitals hfront hback]

end SqlGuard.Text

namespace SqlGuard.Policy

open Text

/-! ## Any two lists of words -/

/-- The text begins with one of the words. -/
def Begins (words : List String) (text : List Char) : Prop :=
  ∃ word ∈ words, ∃ rest, word.toList ++ rest = text

/-- The word stands somewhere in the text. -/
def Contains (text : List Char) (word : String) : Prop :=
  ∃ front back, front ++ word.toList ++ back = text

/-- The text contains none of the words, or the word found is the first of those it contains. -/
def Finds (words : List String) (text : List Char) : Option String → Prop
  | none => ∀ word ∈ words, ¬Contains text word
  | some word => ∃ before after, words = before ++ word :: after ∧ Contains text word ∧
      ∀ earlier ∈ before, ¬Contains text earlier

/-- The verdict on a text, where a statement has to begin with a word of one list and must not
contain any word of the other. -/
def Judges (allow deny : List String) (text : List Char) : Verdict → Prop
  | .admitted => Begins allow text ∧ Finds deny text none
  | .rejected (.forbiddenKeyword keyword) => Begins allow text ∧ Finds deny text (some keyword)
  | .rejected (.notReadOnly found) => ¬Begins allow text ∧ Finds deny text found

/-- The policy with other lists of words. -/
def classifyBy (allow deny : List String) (sql : String) : Verdict :=
  let text := normalized sql
  let found := deny.find? fun word => occursIn word.toList text
  if allow.any fun word => word.toList.isPrefixOf text then
    match found with
    | some keyword => .rejected (.forbiddenKeyword keyword)
    | none => .admitted
  else .rejected (.notReadOnly found)

theorem classifyBy_lists (sql : String) : classifyBy allowed forbidden sql = classify sql := rfl

theorem begins_iff {words : List String} {text : List Char} :
    (words.any fun word => word.toList.isPrefixOf text) = true ↔ Begins words text := by
  simp only [List.any_eq_true, List.isPrefixOf_iff_prefix]
  rfl

theorem finds_iff {words : List String} {text : List Char} {found : Option String} :
    (words.find? fun word => occursIn word.toList text) = found ↔ Finds words text found := by
  cases found with
  | none =>
    simp only [List.find?_eq_none, occursIn_iff]
    rfl
  | some word =>
    rw [List.find?_eq_some_iff_append]
    simp only [occursIn_iff, Bool.not_eq_true', ← Bool.not_eq_true]
    constructor
    · rintro ⟨hw, before, after, he, hall⟩
      exact ⟨before, after, he, hw, hall⟩
    · rintro ⟨before, after, he, hw, hall⟩
      exact ⟨hw, before, after, he, hall⟩

/-- Just one verdict is right, and the policy gives it. -/
theorem classifyBy_iff {allow deny : List String} {sql : String} {verdict : Verdict} :
    classifyBy allow deny sql = verdict ↔ Judges allow deny (normalized sql) verdict := by
  unfold classifyBy Judges
  simp only [← begins_iff, ← finds_iff]
  cases (allow.any fun word => word.toList.isPrefixOf (normalized sql)) <;>
    cases (deny.find? fun word => occursIn word.toList (normalized sql)) <;>
    rcases verdict with _ | found | keyword <;> simp

/-! ## Words that make no difference -/

/-- A search passes over an entry behind another one that fits whenever it does. -/
theorem find?_behind {p : String → Bool} {before after : List String} {earlier word : String}
    (he : earlier ∈ before) (hp : p word = true → p earlier = true) :
    (before ++ word :: after).find? p = (before ++ after).find? p := by
  cases hf : before.find? p with
  | some first => simp [List.find?_append, hf]
  | none =>
    have hword : ¬p word = true := fun h => List.find?_eq_none.mp hf earlier he (hp h)
    simp [List.find?_append, hf, hword]

/-- A forbidden word behind another one that is a part of it can be left out. -/
theorem classifyBy_deny {allow before after : List String} {earlier word : String}
    (he : earlier ∈ before) (hw : earlier.toList <:+: word.toList) (sql : String) :
    classifyBy allow (before ++ word :: after) sql = classifyBy allow (before ++ after) sql := by
  have hp : occursIn word.toList (normalized sql) = true →
      occursIn earlier.toList (normalized sql) = true := by
    simp only [occursIn_iff]
    exact hw.trans
  unfold classifyBy
  dsimp only
  rw [find?_behind (p := fun word => occursIn word.toList (normalized sql)) he hp]

/-- An allowed word that begins with another one can be left out. -/
theorem classifyBy_allow {before after deny : List String} {short word : String}
    (hs : short ∈ before ++ after) (hw : short.toList <+: word.toList) (sql : String) :
    classifyBy (before ++ word :: after) deny sql = classifyBy (before ++ after) deny sql := by
  have hbegins : Begins (before ++ word :: after) (normalized sql) ↔
      Begins (before ++ after) (normalized sql) := by
    constructor
    · rintro ⟨long, hl, hprefix⟩
      by_cases h : long = word
      · subst h
        exact ⟨short, hs, hw.trans hprefix⟩
      · exact ⟨long, by simpa [h] using hl, hprefix⟩
    · rintro ⟨long, hl, hprefix⟩
      refine ⟨long, ?_, hprefix⟩
      rcases List.mem_append.mp hl with hl | hl
      · exact List.mem_append_left _ hl
      · exact List.mem_append_right _ (List.mem_cons_of_mem _ hl)
  have hany := Bool.eq_iff_iff.mpr ((begins_iff.trans hbegins).trans begins_iff.symm)
  unfold classifyBy
  dsimp only
  rw [hany]

/-! ## What is reported -/

/-- The forbidden word that a verdict names. -/
def Verdict.keyword : Verdict → Option String
  | .admitted => none
  | .rejected reason => reason.keyword

/-- A verdict names the first forbidden word of a text, however the text begins. -/
theorem keyword_classifyBy (allow deny : List String) (sql : String) :
    (classifyBy allow deny sql).keyword =
      deny.find? fun word => occursIn word.toList (normalized sql) := by
  unfold classifyBy
  dsimp only
  cases (allow.any fun word => word.toList.isPrefixOf (normalized sql)) <;>
    cases (deny.find? fun word => occursIn word.toList (normalized sql)) <;> rfl

/-- The verdict on a text is the one that its capitals without the blanks around them deserve: it is
admitted just if it begins with an allowed word and contains no forbidden one, and the first
forbidden word that it contains is named otherwise, if there is one. Every text that contains
`UNLOCK` contains `LOCK`, and whatever begins with `DESCRIBE` begins with `DESC`, so the lists could
do without the longer words. -/
theorem classify_documented (sql : String) :
    let text := capitals (trim sql.toList)
    trim (capitals sql.toList) = text ∧
    (∀ verdict, classify sql = verdict ↔ Judges allowed forbidden text verdict) ∧
    (classify sql).keyword ≠ some "UNLOCK" ∧
    classifyBy allowed (forbidden.erase "UNLOCK") sql = classify sql ∧
    classifyBy (allowed.erase "DESCRIBE") forbidden sql = classify sql ∧
    classifyBy (allowed.erase "DESCRIBE") (forbidden.erase "UNLOCK") sql = classify sql := by
  intro text
  have hdeny (allow : List String) :
      classifyBy allow (forbidden.erase "UNLOCK") sql = classifyBy allow forbidden sql := by
    have hsplit : forbidden = forbidden.take 12 ++ "UNLOCK" :: forbidden.drop 13 := rfl
    have herase : forbidden.erase "UNLOCK" = forbidden.take 12 ++ forbidden.drop 13 := by decide
    have hlock : "LOCK" ∈ forbidden.take 12 := by decide
    have hpart : "LOCK".toList <:+: "UNLOCK".toList := by decide
    rw [herase, ← classifyBy_deny hlock hpart, ← hsplit]
  have hallow : classifyBy (allowed.erase "DESCRIBE") forbidden sql = classify sql := by
    have hsplit : allowed = allowed.take 2 ++ "DESCRIBE" :: allowed.drop 3 := rfl
    have herase : allowed.erase "DESCRIBE" = allowed.take 2 ++ allowed.drop 3 := by decide
    have hdesc : "DESC" ∈ allowed.take 2 ++ allowed.drop 3 := by decide
    have hstart : "DESC".toList <+: "DESCRIBE".toList := by decide
    rw [herase, ← classifyBy_allow hdesc hstart, ← hsplit, classifyBy_lists]
  refine ⟨trim_capitals sql.toList, fun verdict => ?_, fun hunlock => ?_, hdeny allowed, hallow,
    (hdeny _).trans hallow⟩
  · rw [← classifyBy_lists]
    exact classifyBy_iff
  · rw [← classifyBy_lists, ← hdeny, keyword_classifyBy] at hunlock
    exact absurd (List.mem_of_find?_eq_some hunlock) (by decide)

/-! ## Texts around a text -/

theorem keyword_classify (sql : String) :
    (classify sql).keyword = firstForbidden (normalized sql) :=
  keyword_classifyBy allowed forbidden sql

/-- A word that fits is found, or one before it. -/
theorem find?_before {p : String → Bool} {word : String} (hp : p word = true)
    (before after : List String) :
    ∃ first ∈ before ++ [word], (before ++ word :: after).find? p = some first := by
  cases hf : before.find? p with
  | some first =>
    exact ⟨first, List.mem_append_left _ (List.mem_of_find?_eq_some hf),
      by simp [List.find?_append, hf]⟩
  | none => exact ⟨word, by simp, by simp [List.find?_append, hf, hp]⟩

/-- What a text contains is also contained in every text around it. -/
theorem contains_around {word : String} (hw : word ∈ forbidden) (a s b : String)
    (h : word.toList <:+: normalized s) : word.toList <:+: normalized (a ++ s ++ b) := by
  have hmem := List.mem_append_right allowed hw
  rw [infix_normalized hmem] at h ⊢
  rw [String.toList_append, String.toList_append, capitals_append, capitals_append]
  exact h.trans (List.infix_append _ _ _)

/-- An allowed beginning stays one, whatever follows: the blanks in front end before it. -/
theorem begins_append {s : String} (h : Begins allowed (normalized s)) (b : String) :
    Begins allowed (normalized (s ++ b)) := by
  obtain ⟨word, hw, hprefix⟩ := (beginsAllowed_normalized s).mp (begins_iff.mpr h)
  refine begins_iff.mp ((beginsAllowed_normalized _).mpr ⟨word, hw, ?_⟩)
  have hstart : trimStart s.toList ≠ [] := by
    intro hs
    rw [hs] at hprefix
    have hwords : ∀ word ∈ allowed, word.toList ≠ [] := by decide
    exact hwords word hw (List.prefix_nil.mp hprefix)
  have happend : trimStart (s ++ b).toList = trimStart s.toList ++ b.toList := by
    unfold trimStart at hstart ⊢
    rw [String.toList_append, List.dropWhile_append, if_neg (by simpa using hstart)]
  rw [happend, capitals_append]
  exact hprefix.trans (List.prefix_append _ _)

theorem judges_classify (sql : String) : Judges allowed forbidden (normalized sql) (classify sql) :=
  classifyBy_iff.mp (classifyBy_lists sql)

/-- A forbidden word that is named for a text is named for every text around it, unless a word
before it in the list is. A text that is admitted, or rejected only for a forbidden word, begins
well; with more text behind it can only be rejected for a forbidden word. -/
theorem classify_context (a s b : String) :
    (∀ reason keyword, classify s = .rejected reason → reason.keyword = some keyword →
      ∃ before after, forbidden = before ++ keyword :: after ∧
        ∃ reason' first, classify (a ++ s ++ b) = .rejected reason' ∧
          reason'.keyword = some first ∧ first ∈ before ++ [keyword]) ∧
    ((classify s = .admitted ∨ ∃ keyword, classify s = .rejected (.forbiddenKeyword keyword)) →
      ∀ found, classify (s ++ b) ≠ .rejected (.notReadOnly found)) ∧
    (classify s = .admitted → classify (s ++ b) = .admitted ∨
      ∃ keyword, classify (s ++ b) = .rejected (.forbiddenKeyword keyword)) := by
  have hbegins (h : classify s = .admitted ∨
      ∃ keyword, classify s = .rejected (.forbiddenKeyword keyword)) (found : Option String) :
      classify (s ++ b) ≠ .rejected (.notReadOnly found) := by
    intro hnot
    have hs := judges_classify s
    have hsb := judges_classify (s ++ b)
    rw [hnot] at hsb
    refine hsb.1 (begins_append ?_ b)
    rcases h with h | ⟨keyword, h⟩
    · rw [h] at hs
      exact hs.1
    · rw [h] at hs
      exact hs.1
  refine ⟨fun reason keyword hs hk => ?_, hbegins, fun h => ?_⟩
  · have hkeyword : (classify s).keyword = some keyword := by rw [hs]; exact hk
    rw [keyword_classify] at hkeyword
    obtain ⟨before, after, he, hcontains, -⟩ := finds_iff.mp hkeyword
    have hmem : keyword ∈ forbidden := by rw [he]; simp
    have haround := contains_around hmem a s b hcontains
    obtain ⟨first, hfirst, hfind⟩ :=
      find?_before (p := fun word => occursIn word.toList (normalized (a ++ s ++ b)))
        (occursIn_iff.mpr haround) before after
    rw [← he] at hfind
    have hnamed : (classify (a ++ s ++ b)).keyword = some first :=
      (keyword_classify _).trans hfind
    refine ⟨before, after, he, ?_⟩
    cases hv : classify (a ++ s ++ b) with
    | admitted =>
      rw [hv] at hnamed
      cases hnamed
    | rejected reason' =>
      rw [hv] at hnamed
      exact ⟨reason', first, rfl, hnamed, hfirst⟩
  · cases hv : classify (s ++ b) with
    | admitted => exact .inl rfl
    | rejected reason =>
      cases reason with
      | notReadOnly found => exact absurd hv (hbegins (.inl h) found)
      | forbiddenKeyword keyword => exact .inr ⟨keyword, rfl⟩

/-- A long s hides nothing, neither by itself nor in a comment of an admitted statement, where
another forbidden word is named before it. -/
theorem long_s_in_comment :
    classify "ſet" = .rejected (.notReadOnly (some "SET")) ∧
    classify "\u2003use shop" = .admitted ∧
    (∃ before after, forbidden = before ++ "SET" :: after ∧
      ∃ reason first, classify ("SELECT 1 /* re" ++ "ſet" ++ ", rename */") = .rejected reason ∧
        reason.keyword = some first ∧ first ∈ before ++ ["SET"]) ∧
    classify ("\u2003use shop" ++ " ſet") ≠ .rejected (.notReadOnly (some "SET")) := by
  have hset : classify "ſet" = .rejected (.notReadOnly (some "SET")) := by decide +kernel
  have huse : classify "\u2003use shop" = .admitted := by decide +kernel
  exact ⟨hset, huse, (classify_context "SELECT 1 /* re" "ſet" ", rename */").1 _ _ hset rfl,
    (classify_context "" "\u2003use shop" " ſet").2.1 (.inl huse) _⟩

end SqlGuard.Policy
