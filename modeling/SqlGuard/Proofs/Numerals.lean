import Mathlib.Data.List.Induction
import Mathlib.Tactic.IntervalCases
import SqlGuard.Number.Reading
import SqlGuard.Proofs.Octets

/-!
# Numerals

Which octets are an integer is said here without a reader: one digit denotes its
value, a digit behind digits adds itself to ten times what they denote
(`Denotes`), and a sign may stand in front (`DenotesNatural`, `DenotesInteger`).

* `readNatural_iff`, `readInteger_iff`: a text is read as a number just if its
  octets denote this number.
* `readNatural_toString`, `readInteger_toString`: the text of a number is read as
  the number.
-/
namespace SqlGuard.Number

open Text.Utf8

/-! ## What octets denote -/

def digitOctet (d : Nat) : UInt8 := .ofNat (48 + d)

/-- One or more digits denote a number, the highest digit first. -/
inductive Denotes : List UInt8 → Nat → Prop
  | digit {d : Nat} (hd : d < 10) : Denotes [digitOctet d] d
  | more {octets : List UInt8} {n d : Nat} (h : Denotes octets n) (hd : d < 10) :
    Denotes (octets ++ [digitOctet d]) (10 * n + d)

def plusOctet : UInt8 := 43

def minusOctet : UInt8 := 45

/-- Digits, with or without a plus sign. -/
inductive DenotesNatural : List UInt8 → Nat → Prop
  | bare {octets : List UInt8} {n : Nat} (h : Denotes octets n) : DenotesNatural octets n
  | plus {octets : List UInt8} {n : Nat} (h : Denotes octets n) :
    DenotesNatural (plusOctet :: octets) n

/-- Digits, with a sign or without one. -/
inductive DenotesInteger : List UInt8 → Int → Prop
  | natural {octets : List UInt8} {n : Nat} (h : DenotesNatural octets n) : DenotesInteger octets n
  | minus {octets : List UInt8} {n : Nat} (h : Denotes octets n) :
    DenotesInteger (minusOctet :: octets) (-n)

/-! ## Digits of a text -/

theorem isDigit_iff {c : Char} : isDigit c = true ↔ 48 ≤ c.toNat ∧ c.toNat ≤ 57 := by
  simp only [isDigit, Bool.and_eq_true, decide_eq_true_eq]
  exact Iff.rfl

theorem encode_digit {c : Char} (h : isDigit c = true) :
    encode [c] = [digitOctet (digitValue c)] := by
  obtain ⟨hlow, hhigh⟩ := isDigit_iff.mp h
  have hc : c.val.toNat ≤ 127 := show c.toNat ≤ 127 by omega
  rw [encode, List.flatMap_singleton, String.utf8EncodeChar, if_pos hc, digitOctet, digitValue,
    Nat.add_sub_cancel' hlow]
  rfl

/-- Every digit is that of a character. -/
theorem digit_of_lt {d : Nat} (hd : d < 10) :
    isDigit (Char.ofNat (48 + d)) = true ∧ digitValue (Char.ofNat (48 + d)) = d := by
  have hc : (Char.ofNat (48 + d)).toNat = 48 + d := toNat_ofNat (by omega)
  exact ⟨isDigit_iff.mpr (by omega), by rw [digitValue, hc, Nat.add_sub_cancel_left]⟩

theorem readDigits_iff {s : List Char} {n : Nat} :
    readDigits s = some n ↔ s ≠ [] ∧ (∀ c ∈ s, isDigit c = true) ∧ digitsValue s = n := by
  simp [readDigits, and_assoc]

theorem digitsValue_concat (s : List Char) (c : Char) :
    digitsValue (s ++ [c]) = 10 * digitsValue s + digitValue c := by
  simp [digitsValue]

theorem denotes_of_readDigits {s : List Char} {n : Nat} (h : readDigits s = some n) :
    Denotes (encode s) n := by
  obtain ⟨hne, hall, rfl⟩ := readDigits_iff.mp h
  clear h
  induction s using List.reverseRecOn with
  | nil => exact absurd rfl hne
  | append_singleton s c ih =>
    have hc : isDigit c = true := hall c (by simp)
    have hlt : digitValue c < 10 := by
      have := isDigit_iff.mp hc
      unfold digitValue
      omega
    have hencode : encode (s ++ [c]) = encode s ++ [digitOctet (digitValue c)] := by
      rw [← encode_digit hc]
      exact List.flatMap_append
    rw [hencode, digitsValue_concat]
    by_cases hs : s = []
    · subst hs
      simpa [digitsValue, encode] using Denotes.digit hlt
    · exact .more (ih hs fun c hc => hall c (by simp [hc])) hlt

/-- Octets that denote a number are a text that is read as the number. -/
theorem Denotes.text {octets : List UInt8} {n : Nat} (h : Denotes octets n) :
    ∃ s, encode s = octets ∧ readDigits s = some n := by
  induction h with
  | @digit d hd =>
    obtain ⟨hc, hvalue⟩ := digit_of_lt hd
    refine ⟨[Char.ofNat (48 + d)], by rw [encode_digit hc, hvalue], ?_⟩
    simp [readDigits, digitsValue, hc, hvalue]
  | @more octets n d h hd ih =>
    obtain ⟨s, rfl, hs⟩ := ih
    obtain ⟨hne, hall, rfl⟩ := readDigits_iff.mp hs
    obtain ⟨hc, hvalue⟩ := digit_of_lt hd
    refine ⟨s ++ [Char.ofNat (48 + d)], ?_, ?_⟩
    · rw [← hvalue, ← encode_digit hc, hvalue]
      exact List.flatMap_append
    · rw [readDigits_iff, digitsValue_concat, hvalue]
      refine ⟨by simp, fun c hmem => ?_, rfl⟩
      rcases List.mem_append.mp hmem with hmem | hmem
      · exact hall c hmem
      · rwa [List.mem_singleton.mp hmem]

/-! ## Signs -/

/-- Digits do not begin with a sign. -/
theorem readDigits_head {s : List Char} {n : Nat} (h : readDigits s = some n) {c : Char}
    (hc : isDigit c = false) (rest : List Char) : s ≠ c :: rest := by
  rintro rfl
  obtain ⟨-, hall, -⟩ := readDigits_iff.mp h
  rw [hall c (by simp)] at hc
  cases hc

theorem readNatural_of_digits {s : List Char} {n : Nat} (h : readDigits s = some n) :
    readNatural s = some n := by
  unfold readNatural
  split
  · exact absurd rfl (readDigits_head h (by decide) _)
  · exact h

theorem readInteger_minus (s : List Char) :
    readInteger ('-' :: s) = (readDigits s).map fun n : Nat => -(n : Int) := by
  rw [readInteger]
  cases readDigits s <;> rfl

/-- Without a minus sign, an integer is a natural number. -/
theorem readInteger_of_natural {s : List Char} (h : ∀ rest, s ≠ '-' :: rest) :
    readInteger s = (readNatural s).map Int.ofNat := by
  unfold readInteger readNatural
  split
  · exact absurd rfl (h _)
  · rfl
  · rename_i hplus
    split
    · exact absurd rfl (hplus _)
    · rfl

/-- A natural number does not begin with a minus sign. -/
theorem readNatural_minus (s : List Char) : readNatural ('-' :: s) = none := by
  simp [readNatural, readDigits, isDigit]

theorem DenotesNatural.text {octets : List UInt8} {n : Nat} (h : DenotesNatural octets n) :
    ∃ s, encode s = octets ∧ readNatural s = some n := by
  cases h with
  | bare h =>
    obtain ⟨s, hs, hread⟩ := h.text
    exact ⟨s, hs, readNatural_of_digits hread⟩
  | plus h =>
    obtain ⟨s, rfl, hread⟩ := h.text
    exact ⟨'+' :: s, rfl, hread⟩

theorem DenotesInteger.text {octets : List UInt8} {n : Int} (h : DenotesInteger octets n) :
    ∃ s, encode s = octets ∧ readInteger s = some n := by
  cases h with
  | natural h =>
    obtain ⟨s, hs, hread⟩ := h.text
    refine ⟨s, hs, ?_⟩
    rw [readInteger_of_natural, hread]
    · rfl
    · rintro rest rfl
      rw [readNatural_minus] at hread
      cases hread
  | minus h =>
    obtain ⟨s, rfl, hread⟩ := h.text
    exact ⟨'-' :: s, rfl, by rw [readInteger_minus, hread]; rfl⟩

theorem readNatural_iff {s : List Char} {n : Nat} :
    readNatural s = some n ↔ DenotesNatural (encode s) n := by
  constructor
  · intro h
    unfold readNatural at h
    split at h
    · exact .plus (denotes_of_readDigits h)
    · exact .bare (denotes_of_readDigits h)
  · intro h
    obtain ⟨t, ht, hread⟩ := h.text
    rwa [← encode_injective ht]

theorem readInteger_iff {s : List Char} {n : Int} :
    readInteger s = some n ↔ DenotesInteger (encode s) n := by
  constructor
  · intro h
    by_cases hminus : ∃ rest, s = '-' :: rest
    · obtain ⟨rest, rfl⟩ := hminus
      rw [readInteger_minus, Option.map_eq_some_iff] at h
      obtain ⟨m, hm, rfl⟩ := h
      exact .minus (denotes_of_readDigits hm)
    · rw [readInteger_of_natural fun rest hs => hminus ⟨rest, hs⟩, Option.map_eq_some_iff] at h
      obtain ⟨m, hm, rfl⟩ := h
      exact .natural (readNatural_iff.mp hm)
  · intro h
    obtain ⟨t, ht, hread⟩ := h.text
    rwa [← encode_injective ht]

/-! ## Texts of numbers -/

theorem readDigits_repr (n : Nat) : readDigits n.repr.toList = some n := by
  rw [Nat.toList_repr, readDigits_iff]
  refine ⟨Nat.toDigits_ne_nil, fun c hc => ?_, ?_⟩
  · have hdigit := Nat.isDigit_of_mem_toDigits (by decide) (by decide) hc
    simp only [Char.isDigit, Bool.and_eq_true, decide_eq_true_eq] at hdigit
    exact isDigit_iff.mpr hdigit
  · have hvalue := Nat.ofDigitChars_ten_toDigits (n := n)
    rwa [Nat.ofDigitChars_eq_foldl] at hvalue

/-- The text of a positive number has no leading zeros. -/
theorem repr_head {n : Nat} (h : 0 < n) : ∃ c ds, n.repr.toList = c :: ds ∧ c ≠ '0' := by
  rw [Nat.toList_repr]
  induction n using Nat.strongRecOn with
  | ind n ih =>
    by_cases hn : n < 10
    · refine ⟨n.digitChar, [], Nat.toDigits_of_lt_base hn, ?_⟩
      interval_cases n <;> decide
    · obtain ⟨c, ds, hds, hc⟩ := ih (n / 10) (by omega) (by omega)
      refine ⟨c, ds ++ Nat.toDigits 10 (n % 10), ?_, hc⟩
      have hsplit := Nat.toDigits_append_toDigits (b := 10) (n := n / 10) (d := n % 10) (by decide)
        (by omega) (Nat.mod_lt n (by decide))
      rw [Nat.div_add_mod, hds] at hsplit
      exact hsplit.symm

theorem readNatural_toString (n : Nat) : readNatural (toString n).toList = some n :=
  readNatural_of_digits (readDigits_repr n)

/-- The text of an integer is that of its size, behind a minus sign if it is negative. -/
theorem toList_toString (n : Int) :
    (∃ m : Nat, n = m ∧ (toString n).toList = m.repr.toList) ∨
      ∃ m : Nat, 0 < m ∧ n = -m ∧ (toString n).toList = '-' :: m.repr.toList := by
  cases n with
  | ofNat m => exact .inl ⟨m, rfl, rfl⟩
  | negSucc m =>
    refine .inr ⟨m + 1, Nat.succ_pos m, rfl, ?_⟩
    show ("-" ++ m.succ.repr).toList = _
    rw [String.toList_append]
    rfl

theorem readInteger_toString (n : Int) : readInteger (toString n).toList = some n := by
  rcases toList_toString n with ⟨m, rfl, htext⟩ | ⟨m, -, rfl, htext⟩
  · have hm : readDigits (toString (m : Int)).toList = some m := readDigits_repr m
    rw [readInteger_of_natural fun rest => readDigits_head hm (by decide) rest,
      readNatural_of_digits hm]
    rfl
  · rw [htext, readInteger_minus, readDigits_repr]
    rfl

end SqlGuard.Number
