import SqlGuard.Proofs.Casing
import SqlGuard.Proofs.Lines
import SqlGuard.Proofs.Words

/-!
# Commands and statements

A line is a command only if it is the word of one in ASCII letters, with nothing
but blanks beside it (`ofLine_leave_iff`, `ofLine_help_iff`). None of these words
in capitals begins like an allowed statement, so no admitted text is taken for a
command (`word_not_admitted`).

* `ofLine_recognizes`: what a line is taken for, and that the policy judges a
  statement as it judges its line.
-/
namespace SqlGuard

open Text

/-! ## Lower case -/

/-- The second text is the first one in small letters. A capital sigma has one small letter at the
end of a word and another one elsewhere; here it may take either. -/
inductive Lowered : List Char → List Char → Prop
  | nil : Lowered [] []
  | letter {s t : List Char} (c : Char) (h : Lowered s t) : Lowered (c :: s) (small c ++ t)
  | ending {s t : List Char} (h : Lowered s t) : Lowered ('Σ' :: s) ('ς' :: t)

namespace Lowered

theorem smalls (s : List Char) : Lowered s (smalls s) := by
  induction s with
  | nil => exact .nil
  | cons c s ih => exact .letter c ih

/-- Both small letters of sigma lie beyond ASCII. -/
theorem eq_of_ascii {s t : List Char} (h : Lowered s t)
    (ht : (∀ d ∈ t, d.toNat < 0x80) ∨ ∀ d ∈ Text.smalls s, d.toNat < 0x80) : t = Text.smalls s := by
  induction h with
  | nil => rfl
  | @letter s t c h ih =>
    have hs : Text.smalls (c :: s) = small c ++ Text.smalls s := List.flatMap_cons
    rw [hs] at ht ⊢
    rw [ih (ht.imp (fun h d hd => h d (List.mem_append_right _ hd))
      fun h d hd => h d (List.mem_append_right _ hd))]
  | @ending s t h ih =>
    have hs : Text.smalls ('Σ' :: s) = 'σ' :: Text.smalls s := List.flatMap_cons
    rw [hs] at ht
    rcases ht with ht | ht
    · exact absurd (ht 'ς' (.head _)) (by decide)
    · exact absurd (ht 'σ' (.head _)) (by decide)

/-- Compared with a word of ASCII letters, every lower case of a text gives the same. -/
theorem eq_word_iff {s t word : List Char} (h : Lowered s t) (hw : ∀ d ∈ word, d.toNat < 0x80) :
    t = word ↔ Text.smalls s = word := by
  constructor
  · rintro rfl
    exact (h.eq_of_ascii (.inl hw)).symm
  · rintro rfl
    exact h.eq_of_ascii (.inr hw)

end Lowered

/-! ## The words of commands -/

/-- The small letters that a command is written with. None of them is the small letter of a
character beyond ASCII. -/
def isWord (word : List Char) : Bool := word.all fun d => 'a' ≤ d ∧ d ≤ 'z' ∧ d ≠ 'k'

theorem ascii_of_isWord {word : List Char} (h : isWord word = true) :
    ∀ d ∈ word, d.toNat < 0x80 := by
  intro d hd
  obtain ⟨-, hz, -⟩ := of_decide_eq_true (List.all_eq_true.mp h d hd)
  have hz' : d.toNat ≤ 0x7A := hz
  omega

theorem asciiSmall_lt {c : Char} (h : (asciiSmall c).toNat < 0x80) : c.toNat < 0x80 := by
  unfold asciiSmall at h
  split at h
  · rename_i hc
    have hZ : c.toNat ≤ 0x5A := hc.2
    omega
  · exact h

theorem small_asciiLetter : ∀ n ∈ List.range' 0x41 58,
    small (Char.ofNat n) = [asciiSmall (Char.ofNat n)] := by
  decide +kernel

/-- A letter in lower case is a letter. -/
theorem small_of_asciiSmall {c : Char} (h : 'a' ≤ asciiSmall c ∧ asciiSmall c ≤ 'z') :
    small c = [asciiSmall c] := by
  have hc : 0x41 ≤ c.toNat ∧ c.toNat ≤ 0x7A := by
    unfold asciiSmall at h
    split at h
    · rename_i hc
      have hA : 0x41 ≤ c.toNat := hc.1
      have hZ : c.toNat ≤ 0x5A := hc.2
      omega
    · have ha : 0x61 ≤ c.toNat := h.1
      have hz : c.toNat ≤ 0x7A := h.2
      omega
  have := small_asciiLetter c.toNat (List.mem_range'_1.mpr ⟨hc.1, by omega⟩)
  rwa [Char.ofNat_toNat] at this

/-- In small letters a text is such a word just if it is the word in ASCII letters of any case. -/
theorem smalls_eq_word_iff {s word : List Char} (hw : isWord word = true) :
    smalls s = word ↔ s.map asciiSmall = word := by
  constructor
  · rintro rfl
    refine (smalls_eq_map_asciiSmall fun d hd => ?_).symm
    exact ⟨ascii_of_isWord hw d hd, (of_decide_eq_true (List.all_eq_true.mp hw d hd)).2.2⟩
  · rintro rfl
    have hsmall (c : Char) (hc : c ∈ s) : small c = [asciiSmall c] := by
      obtain ⟨ha, hz, -⟩ := of_decide_eq_true (List.all_eq_true.mp hw _ (List.mem_map_of_mem hc))
      exact small_of_asciiSmall ⟨ha, hz⟩
    rw [smalls, List.flatMap_congr hsmall, List.map_eq_flatMap]

/-- The text is one of the words, in ASCII letters of any case. -/
def Spells (text : List Char) (words : List String) : Prop :=
  ∃ word ∈ words, text.map asciiSmall = word.toList

theorem Spells.ascii {text : List Char} {words : List String} (h : Spells text words)
    (hw : ∀ word ∈ words, isWord word.toList = true) : ∀ c ∈ text, c.toNat < 0x80 := by
  obtain ⟨word, hmem, hword⟩ := h
  intro c hc
  apply asciiSmall_lt
  exact ascii_of_isWord (hw word hmem) _ (hword ▸ List.mem_map_of_mem hc)

theorem spells_nil {words : List String} (h : Spells [] words) : "" ∈ words := by
  obtain ⟨word, hmem, hword⟩ := h
  obtain rfl : word = "" := String.toList_inj.mp hword.symm
  exact hmem

/-- A text is only one word. -/
theorem Spells.meet {text : List Char} {words words' : List String} (h : Spells text words)
    (h' : Spells text words') : ∃ word ∈ words, word ∈ words' := by
  obtain ⟨word, hmem, hword⟩ := h
  obtain ⟨word', hmem', hword'⟩ := h'
  obtain rfl : word = word' := String.toList_inj.mp (hword.symm.trans hword')
  exact ⟨word, hmem, hmem'⟩

/-- In small letters such a text is the word itself, whichever form its sigmas take. -/
theorem Lowered.spells_iff {text lower : List Char} {words : List String} (h : Lowered text lower)
    (hw : ∀ word ∈ words, isWord word.toList = true) :
    Spells text words ↔ String.ofList lower ∈ words := by
  constructor
  · rintro ⟨word, hmem, hword⟩
    have hword := (smalls_eq_word_iff (hw word hmem)).mpr hword
    rwa [(h.eq_word_iff (ascii_of_isWord (hw word hmem))).mpr hword, String.ofList_toList]
  · intro hmem
    have hlower := hw _ hmem
    rw [String.toList_ofList] at hlower
    refine ⟨_, hmem, (smalls_eq_word_iff (hw _ hmem)).mp ?_⟩
    rw [String.toList_ofList]
    exact (h.eq_word_iff (ascii_of_isWord hlower)).mp rfl

theorem spells_append {text : List Char} {words words' : List String} :
    Spells text (words ++ words') ↔ Spells text words ∨ Spells text words' := by
  simp only [Spells, List.mem_append, or_and_right, exists_or]

/-! ## Recognition -/

/-- The words that end a session. -/
def leaving : List String := ["exit", "quit"]

/-- The words that ask for help. -/
def helping : List String := ["help"]

/-- What a line is taken for, by the letters between its blanks. -/
theorem ofLine_cases (line : String) :
    let text := trim line.toList
    (text = [] ∧ Command.ofLine line = .blank) ∨
    (Spells text leaving ∧ Command.ofLine line = .leave) ∨
    (Spells text helping ∧ Command.ofLine line = .help) ∨
    (text ≠ [] ∧ ¬Spells text leaving ∧ ¬Spells text helping ∧
      Command.ofLine line = .query (String.ofList text)) := by
  intro text
  have hleaving : ∀ word ∈ leaving, isWord word.toList = true := by decide
  have hhelping : ∀ word ∈ helping, isWord word.toList = true := by decide
  rw [(Lowered.smalls text).spells_iff hleaving, (Lowered.smalls text).spells_iff hhelping]
  unfold Command.ofLine
  by_cases hn : text = []
  · exact .inl ⟨hn, if_pos (List.isEmpty_iff.mpr hn)⟩
  rw [if_neg (by simpa using hn)]
  by_cases hl : String.ofList (smalls text) = "exit" ∨ String.ofList (smalls text) = "quit"
  · exact .inr (.inl ⟨by simpa [leaving] using hl, if_pos hl⟩)
  rw [if_neg hl]
  by_cases hh : String.ofList (smalls text) = "help"
  · exact .inr (.inr (.inl ⟨by simpa [helping] using hh, if_pos hh⟩))
  rw [if_neg hh]
  exact .inr (.inr (.inr ⟨hn, by simpa [leaving] using hl, by simpa [helping] using hh, rfl⟩))

theorem ofLine_leave_iff (line : String) :
    Command.ofLine line = .leave ↔ Spells (trim line.toList) leaving := by
  obtain ⟨hn, hc⟩ | ⟨hs, hc⟩ | ⟨hs, hc⟩ | ⟨-, hs, -, hc⟩ := ofLine_cases line <;> rw [hc]
  · rw [hn]
    exact iff_of_false nofun fun h => absurd (spells_nil h) (by decide)
  · exact iff_of_true rfl hs
  · exact iff_of_false nofun fun h => absurd (h.meet hs) (by decide)
  · exact iff_of_false nofun hs

theorem ofLine_help_iff (line : String) :
    Command.ofLine line = .help ↔ Spells (trim line.toList) helping := by
  obtain ⟨hn, hc⟩ | ⟨hs, hc⟩ | ⟨hs, hc⟩ | ⟨-, -, hs, hc⟩ := ofLine_cases line <;> rw [hc]
  · rw [hn]
    exact iff_of_false nofun fun h => absurd (spells_nil h) (by decide)
  · exact iff_of_false nofun fun h => absurd (h.meet hs) (by decide)
  · exact iff_of_true rfl hs
  · exact iff_of_false nofun hs

theorem ofLine_blank_iff (line : String) :
    Command.ofLine line = .blank ↔ trim line.toList = [] := by
  obtain ⟨hn, hc⟩ | ⟨hs, hc⟩ | ⟨hs, hc⟩ | ⟨hn, -, -, hc⟩ := ofLine_cases line <;> rw [hc]
  · exact iff_of_true rfl hn
  · refine iff_of_false nofun fun hn => ?_
    rw [hn] at hs
    exact absurd (spells_nil hs) (by decide)
  · refine iff_of_false nofun fun hn => ?_
    rw [hn] at hs
    exact absurd (spells_nil hs) (by decide)
  · exact iff_of_false nofun hn

theorem text_of_query {line sql : String} (h : Command.ofLine line = .query sql) :
    sql = String.ofList (trim line.toList) ∧ trim line.toList ≠ [] := by
  refine ⟨Line.query_eq h, fun hn => ?_⟩
  rw [(ofLine_blank_iff line).mpr hn] at h
  cases h

theorem trim_trim (s : List Char) : trim (trim s) = trim s := by
  have hnone : ∀ c ∈ [], isBlank c = true := by simp
  simpa using trim_of_bare (trim_bare s) hnone hnone

/-- The blanks around a line do not matter. -/
theorem ofLine_trim (line : String) :
    Command.ofLine (String.ofList (trim line.toList)) = Command.ofLine line := by
  unfold Command.ofLine
  rw [String.toList_ofList, trim_trim]

/-! ## The policy -/

/-- No allowed keyword begins the capitals of a command. -/
theorem allowed_not_command : ∀ word ∈ leaving ++ helping, ∀ keyword ∈ Policy.allowed,
    ¬keyword.toList <+: capitals word.toList := by
  decide +kernel

theorem allowed_ne_nil : ∀ keyword ∈ Policy.allowed, keyword.toList ≠ [] := by decide

/-- An admitted text is more than blanks, and not a command. -/
theorem word_not_admitted {line : String} (h : Policy.classify line = .admitted) :
    trim line.toList ≠ [] ∧ ¬Spells (trim line.toList) (leaving ++ helping) := by
  have hbegins := ((Policy.classify_admitted line).mp h).1
  obtain ⟨keyword, hk, hprefix⟩ := List.any_eq_true.mp hbegins
  rw [List.isPrefixOf_iff_prefix] at hprefix
  constructor
  · intro hn
    rw [Policy.normalized, hn] at hprefix
    exact allowed_ne_nil keyword hk (List.prefix_nil.mp hprefix)
  · rintro ⟨word, hmem, hword⟩
    have hcap : capitals (trim line.toList) = capitals word.toList := by
      rw [← hword, capitals, capitals, List.flatMap_map]
      exact List.flatMap_congr fun c _ => (capital_asciiSmall c).symm
    rw [Policy.normalized, hcap] at hprefix
    exact allowed_not_command word hmem keyword hk hprefix

/-- The policy does not look at the blanks around a text. -/
theorem classify_trim (line : String) :
    Policy.classify (String.ofList (trim line.toList)) = Policy.classify line := by
  apply Policy.classify_congr
  rw [Policy.normalized, Policy.normalized, String.toList_ofList, trim_trim]

theorem trim_eq_nil_iff (s : List Char) : trim s = [] ↔ ∀ c ∈ s, isBlank c = true := by
  obtain ⟨front, back, hfront, hback, hs, hs'⟩ := trim_spec s
  constructor
  · intro hn c hc
    rw [hs, hs', hn] at hc
    exact (List.mem_append.mp hc).elim (hfront c) (hback c)
  · intro hall
    rw [trim, trimStart, List.dropWhile_eq_nil_iff.mpr hall]
    rfl

/-- An admitted line is taken for its statement. A statement is the line without the blanks around
it, which the policy judges as it judges the line, and it is taken for itself. A line is a command
just if its text is the word of one in ASCII letters, whatever small letter a capital sigma has, and
it is blank just if it holds nothing but blanks. -/
theorem ofLine_recognizes (line : String) :
    let text := trim line.toList
    let recognized := Command.ofLine line
    (Policy.classify line = .admitted → recognized = .query (String.ofList text) ∧
      Policy.classify (String.ofList text) = .admitted) ∧
    (∀ sql, recognized = .query sql → sql = String.ofList text ∧ sql ≠ "" ∧ Bare sql.toList ∧
      Policy.classify sql = Policy.classify line ∧ Command.ofLine sql = .query sql) ∧
    (recognized = .leave ↔ Spells text leaving) ∧
    (recognized = .help ↔ Spells text helping) ∧
    (recognized = .leave ∨ recognized = .help → (∀ c ∈ text, c.toNat < 0x80) ∧
      ∀ c ∈ line.toList, c.toNat < 0x80 ∨ isBlank c = true) ∧
    (∀ lower, Lowered text lower → (recognized = .leave ↔ String.ofList lower ∈ leaving) ∧
      (recognized = .help ↔ String.ofList lower ∈ helping)) ∧
    (recognized = .blank ↔ ∀ c ∈ line.toList, isBlank c = true) := by
  intro text recognized
  have hleave : recognized = .leave ↔ Spells text leaving := ofLine_leave_iff line
  have hhelp : recognized = .help ↔ Spells text helping := ofLine_help_iff line
  refine ⟨fun h => ?_, fun sql h => ?_, hleave, hhelp, fun h => ?_, fun lower h => ?_, ?_⟩
  · obtain ⟨hn, hs⟩ := word_not_admitted h
    rw [spells_append, not_or] at hs
    refine ⟨?_, (classify_trim line).trans h⟩
    obtain ⟨hn', -⟩ | ⟨hs', -⟩ | ⟨hs', -⟩ | ⟨-, -, -, hc⟩ := ofLine_cases line
    · exact absurd hn' hn
    · exact absurd hs' hs.1
    · exact absurd hs' hs.2
    · exact hc
  · obtain ⟨rfl, hn⟩ := text_of_query h
    refine ⟨rfl, by simpa using hn, ?_, classify_trim line, ?_⟩
    · rw [String.toList_ofList]
      exact trim_bare line.toList
    · exact (ofLine_trim line).trans h
  · have hs : Spells text (leaving ++ helping) :=
      spells_append.mpr (h.imp hleave.mp hhelp.mp)
    have hascii := hs.ascii (by decide)
    refine ⟨hascii, fun c hc => ?_⟩
    obtain ⟨front, back, hfront, hback, hs, hs'⟩ := trim_spec line.toList
    rw [hs, hs', List.mem_append, List.mem_append] at hc
    rcases hc with hc | hc | hc
    · exact .inr (hfront c hc)
    · exact .inl (hascii c hc)
    · exact .inr (hback c hc)
  · rw [hleave, hhelp]
    exact ⟨h.spells_iff (by decide), h.spells_iff (by decide)⟩
  · rw [← trim_eq_nil_iff]
    exact ofLine_blank_iff line

/-- A dotted capital I has an ASCII letter and a dot for its lower case, and makes no command. -/
example : Command.ofLine "\u3000HeLP\n" = .help ∧
    Command.ofLine "qu\u0130t" = .query "qu\u0130t" := by
  decide +kernel

end SqlGuard
