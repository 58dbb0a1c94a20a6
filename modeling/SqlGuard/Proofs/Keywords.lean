import Mathlib.Data.List.TakeWhile
import SqlGuard.Policy

/-!
# Keywords in a text

The keywords of the policy consist of capital ASCII letters alone, so they
neither reach over a character of another kind nor into the blanks around a
text. The policy looks at a text without the blanks around it; where a keyword
occurs can be told from the text as it is.

* `beginsAllowed_normalized`: a text begins well if, in capitals, a keyword
  follows the blanks in front of it.
* `firstForbidden_normalized`: a text is clean if no forbidden keyword occurs in
  its capitals, blanks around it or not.
-/
namespace SqlGuard.Text

/-! ## Words that avoid some characters -/

section Avoiding

variable {w x y z : List Char} {c : Char}

theorem infix_eq_nil (h : ∀ d ∈ z, d ∉ w) (hw : w <:+: z) : w = [] := by
  cases w with
  | nil => rfl
  | cons d w => exact absurd (by simp) (h d (hw.subset (by simp)))

theorem prefix_append_cons (h : c ∉ w) : w <+: x ++ c :: y ↔ w <+: x := by
  constructor
  · intro hw
    rcases List.prefix_or_prefix_of_prefix hw (List.prefix_append x (c :: y)) with hx | hx
    · exact hx
    · obtain ⟨v, rfl⟩ := hx
      rw [List.prefix_append_right_inj] at hw
      cases v with
      | nil => exact ⟨[], by simp⟩
      | cons d v =>
        rw [List.cons_prefix_cons] at hw
        exact absurd (by simp [hw.1]) h
  · exact fun hw => hw.trans (List.prefix_append x _)

/-- A word that avoids the character stands on one side of it. -/
theorem infix_append_cons (h : c ∉ w) : w <:+: x ++ c :: y ↔ w <:+: x ∨ w <:+: y := by
  induction x with
  | nil =>
    rw [List.nil_append, List.infix_cons_iff]
    constructor
    · rintro (hw | hw)
      · exact .inl (((prefix_append_cons (x := []) h).mp hw).isInfix)
      · exact .inr hw
    · rintro (hw | hw)
      · rw [List.infix_nil.mp hw]
        exact .inl (List.nil_prefix)
      · exact .inr hw
  | cons d x ih =>
    rw [List.cons_append, List.infix_cons_iff, List.infix_cons_iff, ih, or_assoc,
      ← List.cons_append, prefix_append_cons h]

theorem prefix_append_of_avoids (h : ∀ d ∈ z, d ∉ w) : w <+: x ++ z ↔ w <+: x := by
  cases z with
  | nil => rw [List.append_nil]
  | cons d z => exact prefix_append_cons (h d (by simp))

/-- Characters that a word avoids can be taken away from both ends. -/
theorem infix_append_of_avoids (hy : ∀ d ∈ y, d ∉ w) (hz : ∀ d ∈ z, d ∉ w) :
    w <:+: y ++ x ++ z ↔ w <:+: x := by
  have front : w <:+: y ++ x ↔ w <:+: x := by
    induction y with
    | nil => rw [List.nil_append]
    | cons d y ih =>
      rw [← List.nil_append (d :: y ++ x), List.cons_append, infix_append_cons (hy d (by simp)),
        ih fun d hd => hy d (by simp [hd])]
      refine ⟨?_, .inr⟩
      rintro (hw | hw)
      · rw [List.infix_nil.mp hw]
        exact List.nil_infix
      · exact hw
  cases z with
  | nil => rw [List.append_nil, front]
  | cons d z =>
    rw [infix_append_cons (hz d (by simp)), front]
    refine ⟨?_, .inl⟩
    rintro (hw | hw)
    · exact hw
    · rw [infix_eq_nil (fun d hd => hz d (by simp [hd])) hw]
      exact List.nil_infix

end Avoiding

/-! ## Blanks and capitals -/

/-- A text is its trimmed text between two runs of blanks. -/
theorem trim_spec (s : List Char) : ∃ front back, (∀ c ∈ front, isBlank c = true) ∧
    (∀ c ∈ back, isBlank c = true) ∧ s = front ++ trimStart s ∧ trimStart s = trim s ++ back := by
  refine ⟨s.takeWhile isBlank, ((trimStart s).reverse.takeWhile isBlank).reverse,
    fun c hc => List.mem_takeWhile_imp hc, fun c hc => ?_, ?_, ?_⟩
  · exact List.mem_takeWhile_imp (List.mem_reverse.mp hc)
  · exact (List.takeWhile_append_dropWhile).symm
  · rw [trim, trimEnd, ← List.reverse_append, List.takeWhile_append_dropWhile, List.reverse_reverse]

/-- Blanks in front of a character that is none belong to what stands before it. -/
theorem trimStart_append_cons {c : Char} (h : isBlank c = false) (s t : List Char) :
    trimStart (s ++ c :: t) = trimStart s ++ c :: t := by
  unfold trimStart
  rw [List.dropWhile_append]
  split
  · rename_i hs
    rw [List.isEmpty_iff.mp hs, List.dropWhile_cons_of_neg (by simp [h]), List.nil_append]
  · rfl

theorem capitals_append (s t : List Char) : capitals (s ++ t) = capitals s ++ capitals t :=
  List.flatMap_append

/-- No blank is in a table of capital forms. -/
theorem blank_uncased : ∀ n ∈ blanks.flatMap fun r => List.range' r.1 (r.2 + 1 - r.1),
    capitalWords.lookup n = none ∧ imageIn capitalRuns n = none := by
  decide +kernel

theorem capital_of_blank {c : Char} (h : isBlank c = true) : capital c = [c] := by
  obtain ⟨r, hr, h1, h2⟩ := inRanges_iff.mp h
  have hm : c.toNat ∈ blanks.flatMap fun r => List.range' r.1 (r.2 + 1 - r.1) := by
    refine List.mem_flatMap.mpr ⟨r, hr, List.mem_range'_1.mpr ⟨h1, by omega⟩⟩
  obtain ⟨hw, hi⟩ := blank_uncased _ hm
  rw [capital, formIn, hw, hi]

theorem capitals_of_blanks {s : List Char} (h : ∀ c ∈ s, isBlank c = true) : capitals s = s := by
  induction s with
  | nil => rfl
  | cons c s ih =>
    rw [← List.singleton_append, capitals_append, ih fun d hd => h d (by simp [hd]), capitals,
      List.flatMap_singleton, capital_of_blank (h c (by simp))]

end SqlGuard.Text

namespace SqlGuard.Policy

open Text

/-- Every keyword consists of capital ASCII letters. -/
theorem keyword_capital : ∀ word ∈ allowed ++ forbidden, ∀ c ∈ word.toList, 'A' ≤ c ∧ c ≤ 'Z' := by
  have hall : (allowed ++ forbidden).all (fun word =>
      word.toList.all fun c => 'A' ≤ c && c ≤ 'Z') := by decide
  intro word hw c hc
  simpa using List.all_eq_true.mp (List.all_eq_true.mp hall word hw) c hc

theorem blank_not_mem_keyword {word : String} (hw : word ∈ allowed ++ forbidden) {c : Char}
    (hc : isBlank c = true) : c ∉ word.toList := by
  have hletters : ∀ r ∈ blanks, r.2 < 0x41 ∨ 0x5A < r.1 := by decide
  intro hm
  obtain ⟨h1, h2⟩ := keyword_capital word hw c hm
  obtain ⟨r, hr, h3, h4⟩ := inRanges_iff.mp hc
  have h1' : 0x41 ≤ c.toNat := h1
  have h2' : c.toNat ≤ 0x5A := h2
  have := hletters r hr
  omega

theorem prefix_normalized {word sql : String} (hw : word ∈ allowed ++ forbidden) :
    word.toList <+: normalized sql ↔ word.toList <+: capitals (trimStart sql.toList) := by
  obtain ⟨_, back, -, hback, -, hs⟩ := trim_spec sql.toList
  have hcap : capitals (trimStart sql.toList) = normalized sql ++ back := by
    rw [hs, capitals_append, capitals_of_blanks hback]
    rfl
  rw [hcap, prefix_append_of_avoids fun c hc => blank_not_mem_keyword hw (hback c hc)]

theorem infix_normalized {word sql : String} (hw : word ∈ allowed ++ forbidden) :
    word.toList <:+: normalized sql ↔ word.toList <:+: capitals sql.toList := by
  obtain ⟨front, back, hfront, hback, hs, hs'⟩ := trim_spec sql.toList
  have hcap : capitals sql.toList = front ++ normalized sql ++ back := by
    rw [hs, hs', capitals_append, capitals_append, capitals_of_blanks hfront,
      capitals_of_blanks hback, List.append_assoc]
    rfl
  rw [hcap, infix_append_of_avoids (fun c hc => blank_not_mem_keyword hw (hfront c hc)) fun c hc =>
    blank_not_mem_keyword hw (hback c hc)]

theorem beginsAllowed_normalized (sql : String) : beginsAllowed (normalized sql) = true ↔
    ∃ word ∈ allowed, word.toList <+: capitals (trimStart sql.toList) := by
  simp only [beginsAllowed, List.any_eq_true, List.isPrefixOf_iff_prefix]
  refine exists_congr fun word => and_congr_right fun hw => ?_
  exact prefix_normalized (List.mem_append_left _ hw)

theorem firstForbidden_normalized (sql : String) : firstForbidden (normalized sql) = none ↔
    ∀ word ∈ forbidden, ¬word.toList <:+: capitals sql.toList := by
  simp only [firstForbidden, List.find?_eq_none, occursIn_iff]
  refine forall₂_congr fun word hw => ?_
  rw [infix_normalized (List.mem_append_right _ hw)]

theorem classify_admitted (sql : String) : classify sql = .admitted ↔
    beginsAllowed (normalized sql) = true ∧ firstForbidden (normalized sql) = none := by
  unfold classify
  dsimp only
  cases hb : beginsAllowed (normalized sql) <;> cases hf : firstForbidden (normalized sql) <;> simp

/-- The policy finds no forbidden keyword: it admits the text, or only misses a good beginning. -/
theorem classify_clean (sql : String) : classify sql = .admitted ∨
    classify sql = .rejected (.notReadOnly none) ↔ firstForbidden (normalized sql) = none := by
  unfold classify
  dsimp only
  cases hb : beginsAllowed (normalized sql) <;> cases hf : firstForbidden (normalized sql) <;> simp

end SqlGuard.Policy
