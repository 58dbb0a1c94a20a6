import SqlGuard.ConnectionString.Percent
import SqlGuard.Proofs.Percent

/-!
# Texts between quotes

A text is written in many ways. Which characters stand for themselves and what may
stand behind a backslash depends on the format. `Written` says what the two have
in common, and `exists_written` that every text can be written once every
character that does not stand for itself has an escape. Most of these escapes are
by number (`Hex`).
-/
namespace SqlGuard.Profile

open ConnectionString

/-! ## Hexadecimal digits -/

/-- Digits denote a number, the highest digit first. -/
def Hex (digits : List Char) (n : Nat) : Prop :=
  ∃ values : List Nat,
    digits.map hexValue = values.map some ∧ values.foldl (fun n d => 16 * n + d) 0 = n

theorem hexValue_bound {c : Char} {d : Nat} (h : hexValue c = some d) : c.toNat < 128 ∧ d < 16 := by
  unfold hexValue at h
  split at h
  · rename_i hc
    have hlow : 48 ≤ c.toNat := hc.1
    have hhigh : c.toNat ≤ 57 := hc.2
    cases h
    omega
  split at h
  · rename_i hc
    have hlow : 97 ≤ c.toNat := hc.1
    have hhigh : c.toNat ≤ 102 := hc.2
    cases h
    omega
  split at h
  · rename_i hc
    have hlow : 65 ≤ c.toNat := hc.1
    have hhigh : c.toNat ≤ 70 := hc.2
    cases h
    omega
  · cases h

/-- Four digits, one by one. -/
theorem hex_four {digits : List Char} {n : Nat} (h : Hex digits n) (hlength : digits.length = 4) :
    ∃ a b c d a' b' c' d', digits = [a, b, c, d] ∧ hexValue a = some a' ∧ hexValue b = some b' ∧
      hexValue c = some c' ∧ hexValue d = some d' ∧ ((a' * 16 + b') * 16 + c') * 16 + d' = n := by
  obtain ⟨values, hvalues, rfl⟩ := h
  have hlength' : values.length = 4 := by
    simpa [hlength] using (congrArg List.length hvalues).symm
  match digits, hlength, values, hlength' with
  | [a, b, c, d], _, [a', b', c', d'], _ =>
    simp only [List.map_cons, List.map_nil, List.cons.injEq, and_true] at hvalues
    obtain ⟨ha, hb, hc, hd⟩ := hvalues
    refine ⟨a, b, c, d, a', b', c', d', rfl, ha, hb, hc, hd, ?_⟩
    simp only [List.foldl_cons, List.foldl_nil]
    omega

/-- A character of one octet, by number. -/
theorem hex_octet {n : Nat} (h : n < 256) :
    Hex ['0', '0', hexDigit (n / 16), hexDigit (n % 16)] n := by
  refine ⟨[0, 0, n / 16, n % 16], ?_, ?_⟩
  · simp only [List.map_cons, List.map_nil, hexValue_hexDigit _ (show n / 16 < 16 by omega),
      hexValue_hexDigit _ (show n % 16 < 16 by omega)]
    rfl
  · simp only [List.foldl_cons, List.foldl_nil]
    omega

/-! ## Characters and escapes -/

section Written

variable {plain : Char → Prop} {escape : List Char → Char → Prop}

/-- Characters that stand for themselves, and escapes behind backslashes, make a text. -/
inductive Written (plain : Char → Prop) (escape : List Char → Char → Prop) :
    List Char → List Char → Prop
  | nil : Written plain escape [] []
  | plain {c : Char} {w text : List Char} (hc : plain c) (h : Written plain escape w text) :
    Written plain escape (c :: w) (c :: text)
  | escape {e : List Char} {c : Char} {w text : List Char} (he : escape e c)
    (h : Written plain escape w text) : Written plain escape ('\\' :: (e ++ w)) (c :: text)

/-- Characters that stand for themselves are written as they are. -/
theorem written_self {text : List Char} (h : ∀ c ∈ text, plain c) :
    Written plain escape text text := by
  induction text with
  | nil => exact .nil
  | cons c text ih =>
    obtain ⟨hc, h⟩ := List.forall_mem_cons.mp h
    exact .plain hc (ih h)

/-- Every text can be written if every character can. -/
theorem exists_written (h : ∀ c, ¬plain c → ∃ e, escape e c) (text : List Char) :
    ∃ w, Written plain escape w text := by
  induction text with
  | nil => exact ⟨[], .nil⟩
  | cons c text ih =>
    obtain ⟨w, hw⟩ := ih
    by_cases hc : plain c
    · exact ⟨c :: w, .plain hc hw⟩
    · obtain ⟨e, he⟩ := h c hc
      exact ⟨'\\' :: (e ++ w), .escape he hw⟩

end Written

end SqlGuard.Profile
