import Mathlib.Data.List.Forall2
import SqlGuard.Proofs.Verdicts
import SqlGuard.Proofs.Words

/-!
# Case and surrounding blanks

The policy looks at the capitals of a trimmed text, so all texts with the same
capitals between blanks get one verdict. Three facts of the tables carry this:
an ASCII letter has the same capital in either case (`capital_asciiCapital`,
`capital_asciiSmall`), capitals have no other capitals (`capitals_capitals`),
and no blank has or is a capital of another character (`trim_capitals`).

The table of capitals is compared with itself by the places that its entries
take up (`Places`), block by block.

* `classify_recased`: the case of ASCII letters, blanks around a text, and
  putting all of it in capitals make no difference to its verdict.
-/
namespace SqlGuard.Text

/-! ## Places in the order of characters -/

/-- Places at one distance: the first, the last and the distance. -/
structure Places where
  first : Nat
  last : Nat
  stride : Nat
  deriving DecidableEq

namespace Places

/-- The code stands in one of the places. -/
structure Has (p : Places) (code : Nat) : Prop where
  low : p.first ≤ code
  high : code ≤ p.last
  step : (code - p.first) % p.stride = 0

/-- One lies beside the other, or every second place between the others. -/
def apart (p q : Places) : Bool :=
  p.last.blt q.first || q.last.blt p.first ||
    ((p.first.beq p.last || p.stride.beq 2) && q.stride.beq 2 && ((p.first + q.first) % 2).beq 1)

theorem apart_iff {p q : Places} : p.apart q = true ↔ p.last < q.first ∨ q.last < p.first ∨
    (p.first = p.last ∨ p.stride = 2) ∧ q.stride = 2 ∧ (p.first + q.first) % 2 = 1 := by
  simp only [apart, Bool.or_eq_true, Bool.and_eq_true, Nat.blt_eq, Nat.beq_eq, or_assoc, and_assoc]

theorem not_has_of_apart {p q : Places} {code : Nat} (h : p.apart q = true) (hp : p.Has code) :
    ¬q.Has code := by
  intro hq
  have := hp.low
  have := hp.high
  have := hq.low
  have := hq.high
  rcases apart_iff.mp h with h | h | ⟨hone | hp2, hq2, hodd⟩
  · omega
  · omega
  · have hstep := hq.step
    rw [hq2] at hstep
    omega
  · have hstep := hq.step
    have hstep' := hp.step
    rw [hq2] at hstep
    rw [hp2] at hstep'
    omega

/-- All places from the first one of a block to its last one. -/
def hull : List Places → Places
  | [] => ⟨0, 0, 1⟩
  | p :: block => ⟨p.first, (block.getLast?.getD p).last, 1⟩

end Places

/-- The characters that have one capital. -/
def runPlaces : List Places :=
  capitalRuns.map fun (first, last, stride, _) => ⟨first, last, stride⟩

/-- The characters that have a word of capitals. -/
def wordPlaces : List Places := capitalWords.map fun (n, _) => ⟨n, n, 1⟩

/-- The characters that are capitals of others. -/
def capitalPlaces : List Places :=
  capitalRuns.map (fun (first, last, stride, image) => ⟨image, image + (last - first), stride⟩) ++
    capitalWords.flatMap fun (_, word) => word.map fun n => ⟨n, n, 1⟩

/-- The characters that have capitals, with neighbours in a block. -/
def smallBlocks : List (List Places) := runPlaces.toChunks 16 ++ wordPlaces.toChunks 16

theorem flatten_smallBlocks : smallBlocks.flatten = runPlaces ++ wordPlaces := by
  decide +kernel

theorem smallBlocks_hull : ∀ block ∈ smallBlocks, ∀ q ∈ block,
    (Places.hull block).first ≤ q.first ∧ q.last ≤ (Places.hull block).last := by
  decide +kernel

/-- A look at the ends of a block spares a look at its entries. -/
theorem smallBlocks_apart : (smallBlocks.all fun block => capitalPlaces.all fun p =>
    p.apart (Places.hull block) || block.all p.apart) = true := by
  decide +kernel

theorem places_pos : ∀ q ∈ runPlaces ++ wordPlaces, 0 < q.first := by
  decide +kernel

/-- No capital of a character has a capital. -/
theorem not_has_of_capital {p q : Places} (hp : p ∈ capitalPlaces) (hq : q ∈ runPlaces ++ wordPlaces)
    {code : Nat} (h : p.Has code) : ¬q.Has code := by
  rw [← flatten_smallBlocks] at hq
  obtain ⟨block, hb, hq⟩ := List.mem_flatten.mp hq
  have hblock := List.all_eq_true.mp (List.all_eq_true.mp smallBlocks_apart block hb) p hp
  rcases Bool.or_eq_true_iff.mp hblock with hhull | hall
  · intro hhas
    obtain ⟨hlow, hhigh⟩ := smallBlocks_hull block hb q hq
    have hwide : (Places.hull block).Has code :=
      ⟨hlow.trans hhas.low, hhas.high.trans hhigh, by cases block <;> exact Nat.mod_one _⟩
    exact Places.not_has_of_apart hhull h hwide
  · exact Places.not_has_of_apart (List.all_eq_true.mp hall q hq) h

/-! ## Capitals of capitals -/

/-- A character outside the table is its own capital. -/
theorem capital_of_not_has {c : Char} (h : ∀ q ∈ runPlaces ++ wordPlaces, ¬q.Has c.toNat) :
    capital c = [c] := by
  have hword : capitalWords.lookup c.toNat = none := by
    rw [List.lookup_eq_none_iff]
    intro w hw
    rw [bne_iff_ne]
    intro hc
    refine h ⟨w.1, w.1, 1⟩ (List.mem_append_right _ (List.mem_map_of_mem hw)) ?_
    exact ⟨hc.ge, hc.le, Nat.mod_one _⟩
  have himage : imageIn capitalRuns c.toNat = none := by
    rw [imageIn, List.findSome?_eq_none_iff]
    rintro ⟨first, last, stride, image⟩ hr
    dsimp only
    rw [if_neg]
    rintro ⟨hlow, hhigh, hstep⟩
    exact h ⟨first, last, stride⟩ (List.mem_append_left _ (List.mem_map_of_mem hr))
      ⟨hlow, hhigh, hstep⟩
  rw [capital, formIn, hword, himage]

/-- What is not the character itself stands in the table of capitals. -/
theorem mem_capital {c d : Char} (h : d ∈ capital c) : capital c = [c] ∨
    ∃ code, d = Char.ofNat code ∧ ∃ p ∈ capitalPlaces, p.Has code := by
  unfold capital formIn at h ⊢
  split at h
  · rename_i word hw
    obtain ⟨n, hn, rfl⟩ := List.mem_map.mp h
    obtain ⟨before, after, he, -⟩ := List.lookup_eq_some_iff.mp hw
    have hmem : (c.toNat, word) ∈ capitalWords := by rw [he]; simp
    refine .inr ⟨n, rfl, ⟨n, n, 1⟩, List.mem_append_right _ ?_, le_rfl, le_rfl, Nat.mod_one _⟩
    exact List.mem_flatMap.mpr ⟨_, hmem, List.mem_map_of_mem hn⟩
  · split at h
    · rename_i code hcode
      obtain ⟨⟨first, last, stride, image⟩, hr, hrun⟩ := List.exists_of_findSome?_eq_some hcode
      dsimp only at hrun
      split at hrun
      · rename_i hn
        obtain ⟨hlow, hhigh, hstep⟩ := hn
        cases hrun
        refine .inr ⟨_, List.mem_singleton.mp h, ⟨image, image + (last - first), stride⟩,
          List.mem_append_left _ (List.mem_map_of_mem hr), ?_, ?_, ?_⟩
        · exact Nat.le_add_right _ _
        · exact Nat.add_le_add_left (Nat.sub_le_sub_right hhigh _) _
        · show (image + (c.toNat - first) - image) % stride = 0
          rwa [Nat.add_sub_cancel_left]
      · cases hrun
    · exact .inl rfl

theorem capital_of_mem_capital {c d : Char} (h : d ∈ capital c) : capital d = [d] := by
  rcases mem_capital h with hc | ⟨code, rfl, p, hp, hhas⟩
  · rw [hc, List.mem_singleton] at h
    rw [h, hc]
  · refine capital_of_not_has fun q hq => ?_
    rcases toNat_ofNat_or code with hcode | hcode
    · rw [hcode]
      exact not_has_of_capital hp hq hhas
    · rw [hcode]
      exact fun hzero => absurd (places_pos q hq) (Nat.not_lt.mpr hzero.low)

/-- Capitals are capitals already. -/
theorem capitals_capitals (s : List Char) : capitals (capitals s) = capitals s := by
  have hfix : ∀ d ∈ capitals s, capital d = [d] := by
    intro d hd
    obtain ⟨c, -, hd⟩ := List.mem_flatMap.mp hd
    exact capital_of_mem_capital hd
  rw [capitals, List.flatMap_congr hfix, List.flatMap_singleton']

/-! ## ASCII letters -/

theorem capital_smallLetter : ∀ n ∈ List.range' 0x61 26,
    capital (Char.ofNat n) = [Char.ofNat (n - 32)] := by
  decide +kernel

theorem capital_of_smallLetter {c : Char} (h : 'a' ≤ c ∧ c ≤ 'z') :
    capital c = [asciiCapital c] := by
  have hlow : 0x61 ≤ c.toNat := h.1
  have hhigh : c.toNat ≤ 0x7A := h.2
  have hc := capital_smallLetter c.toNat (List.mem_range'_1.mpr ⟨hlow, by omega⟩)
  rw [asciiCapital, if_pos h, ← hc, Char.ofNat_toNat]

theorem capital_of_capitalLetter {c : Char} (h : 'A' ≤ c ∧ c ≤ 'Z') : capital c = [c] := by
  have hlow : 0x41 ≤ c.toNat := h.1
  have hhigh : c.toNat ≤ 0x5A := h.2
  have hc := capital_smallLetter (c.toNat + 32) (List.mem_range'_1.mpr ⟨by omega, by omega⟩)
  rw [Nat.add_sub_cancel, Char.ofNat_toNat] at hc
  exact capital_of_mem_capital (by rw [hc]; exact List.mem_singleton_self c)

/-- A letter has the capital that its capital has. -/
theorem capital_asciiCapital (c : Char) : capital (asciiCapital c) = capital c := by
  by_cases h : 'a' ≤ c ∧ c ≤ 'z'
  · have hc := capital_of_smallLetter h
    rw [hc]
    exact capital_of_mem_capital (by rw [hc]; exact List.mem_singleton_self _)
  · rw [asciiCapital, if_neg h]

theorem capital_asciiSmall (c : Char) : capital (asciiSmall c) = capital c := by
  by_cases h : 'A' ≤ c ∧ c ≤ 'Z'
  · have hlow : 0x41 ≤ c.toNat := h.1
    have hhigh : c.toNat ≤ 0x5A := h.2
    have hcode : (asciiSmall c).toNat = c.toNat + 32 := by
      rw [asciiSmall, if_pos h]
      exact toNat_ofNat (by omega)
    have hback : asciiCapital (asciiSmall c) = c := by
      have hsmall : 'a' ≤ asciiSmall c ∧ asciiSmall c ≤ 'z' :=
        ⟨show 0x61 ≤ (asciiSmall c).toNat by omega, show (asciiSmall c).toNat ≤ 0x7A by omega⟩
      rw [asciiCapital, if_pos hsmall, hcode, Nat.add_sub_cancel, Char.ofNat_toNat]
    rw [← capital_asciiCapital (asciiSmall c), hback]
  · rw [asciiSmall, if_neg h]

/-- The second text is the first one with the case of some ASCII letters changed. -/
def Recased (s t : List Char) : Prop :=
  List.Forall₂ (fun c d => d = c ∨ d = asciiCapital c ∨ d = asciiSmall c) s t

theorem capitals_recased {s t : List Char} (h : Recased s t) : capitals t = capitals s := by
  induction h with
  | nil => rfl
  | @cons c d s t hd _ ih =>
    have hc : capital d = capital c := by
      rcases hd with rfl | rfl | rfl
      · rfl
      · exact capital_asciiCapital c
      · exact capital_asciiSmall c
    unfold capitals at ih ⊢
    rw [List.flatMap_cons, List.flatMap_cons, hc, ih]

/-! ## Blanks -/

/-- More blanks around a text are cut off with those that it has. -/
theorem trim_between {front back : List Char} (s : List Char)
    (hfront : ∀ c ∈ front, isBlank c = true) (hback : ∀ c ∈ back, isBlank c = true) :
    trim (front ++ s ++ back) = trim s := by
  obtain ⟨before, behind, hbefore, hbehind, hs, hs'⟩ := trim_spec s
  have hsplit : front ++ s ++ back = (front ++ before) ++ trim s ++ (behind ++ back) := by
    conv => lhs; rw [hs, hs']
    simp only [List.append_assoc]
  rw [hsplit]
  refine trim_of_bare (trim_bare s) (fun c hc => ?_) (fun c hc => ?_)
  · exact (List.mem_append.mp hc).elim (hfront c) (hbefore c)
  · exact (List.mem_append.mp hc).elim (hbehind c) (hback c)

end SqlGuard.Text

namespace SqlGuard.Policy

open Text

/-! ## Verdicts -/

/-- The verdict depends on the normalized text alone. -/
theorem classify_congr {s t : String} (h : normalized s = normalized t) :
    classify s = classify t := by
  rw [classify, classify, h]

/-- A text gets the verdict of every text that differs from it in the case of ASCII letters and in
the blanks around it, and the verdict of its capitals, whatever characters it has. -/
theorem classify_recased (s : String) :
    (∀ front t back : String, (∀ c ∈ front.toList, isBlank c = true) →
      (∀ c ∈ back.toList, isBlank c = true) → Recased s.toList t.toList →
      classify (front ++ t ++ back) = classify s) ∧
    classify (String.ofList (capitals s.toList)) = classify s := by
  constructor
  · intro front t back hfront hback ht
    apply classify_congr
    unfold normalized
    rw [String.toList_append, String.toList_append, trim_between t.toList hfront hback,
      ← trim_capitals, ← trim_capitals, capitals_recased ht]
  · apply classify_congr
    unfold normalized
    rw [String.toList_ofList, trim_capitals, capitals_capitals]

/-- An en quad and a tab in front, a line break behind, and letters of both cases. -/
theorem long_s_recased :
    classify ("\u2000\t" ++ "sHoW 'ſet'" ++ "\n") = classify "ShOw 'ſEt'" ∧
      classify "ShOw 'ſEt'" = .rejected (.forbiddenKeyword "SET") := by
  constructor
  · have hfront : "\u2000\t".toList.all isBlank = true := by decide
    have hback : "\n".toList.all isBlank = true := by decide
    have hcase : Recased "ShOw 'ſEt'".toList "sHoW 'ſet'".toList := by
      unfold Recased
      decide
    exact (classify_recased _).1 _ _ _ (List.all_eq_true.mp hfront) (List.all_eq_true.mp hback) hcase
  · decide +kernel

/-- In small letters a text may get another verdict: the Kelvin sign is a capital, but not the
capital of its small letter. -/
example : classify "use loc\u212A" = .admitted ∧
    classify (String.ofList (smalls "use loc\u212A".toList)) =
      .rejected (.forbiddenKeyword "LOCK") := by
  decide +kernel

end SqlGuard.Policy
