import SqlGuard.Session.Input
import SqlGuard.Text.Utf8

/-!
# The octets of texts

Decoding what was encoded gives the text back (`decodeString_encodeString`),
nothing but what was encoded can be decoded (`decodeString_eq_ok_iff`), and only
the character newline has an octet that is a newline
(`newline_not_mem_encodeString`).
-/
namespace SqlGuard

theorem toNat_ofNat {n : Nat} (h : n < 0xD800 ∨ 0xE000 ≤ n ∧ n < 0x110000) :
    (Char.ofNat n).toNat = n := by
  have hv : n.isValidChar := h.imp_right fun h => ⟨by omega, h.2⟩
  rw [Char.ofNat, dif_pos hv]
  rfl

end SqlGuard

namespace SqlGuard.Text.Utf8

/-! ## Sequences of octets -/

theorem isContinuation_of {b : UInt8} {y : Nat} (hb : b.toNat = y + 0x80) (hy : y < 64) :
    isContinuation b = true ∧ payload b = y := by
  constructor
  · simp only [isContinuation, Bool.and_eq_true, decide_eq_true_eq, UInt8.le_iff_toNat_le, hb,
      UInt8.reduceToNat]
    omega
  · rw [payload, hb]
    omega

theorem decodeFrom_one (index : Nat) {a : UInt8} (ha : a.toNat < 0x80) (rest : List UInt8) :
    decodeFrom index (a :: rest) =
      (decodeFrom (index + 1) rest).map (Char.ofNat a.toNat :: ·) := by
  rw [decodeFrom.eq_def]
  dsimp only
  rw [if_pos (UInt8.lt_iff_toNat_lt.mpr ha)]

theorem decodeFrom_two (index : Nat) {a b : UInt8} {x y : Nat} (ha : a.toNat = x + 0xC0)
    (hb : b.toNat = y + 0x80) (hx : 2 ≤ x) (hx' : x < 32) (hy : y < 64) (rest : List UInt8) :
    decodeFrom index (a :: b :: rest) =
      (decodeFrom (index + 2) rest).map (Char.ofNat (x * 64 + y) :: ·) := by
  obtain ⟨hbc, hbp⟩ := isContinuation_of hb hy
  have h1 : ¬a < 0x80 := by
    simp only [UInt8.lt_iff_toNat_lt, ha, UInt8.reduceToNat]
    omega
  have h2 : 0xC2 ≤ a ∧ a ≤ 0xDF := by
    simp only [UInt8.le_iff_toNat_le, ha, UInt8.reduceToNat]
    omega
  rw [decodeFrom.eq_def]
  dsimp only
  rw [if_neg h1, if_pos h2, if_pos hbc, hbp, ha, show (x + 0xC0) % 32 = x by omega]

/-- The second octet shuts out codes that fit in two octets, and surrogates. -/
theorem decodeFrom_three (index : Nat) {a b c : UInt8} {x y z : Nat} (ha : a.toNat = x + 0xE0)
    (hb : b.toNat = y + 0x80) (hc : c.toNat = z + 0x80) (hx : x < 16) (hy : y < 64) (hz : z < 64)
    (hlow : x = 0 → 32 ≤ y) (hhigh : x = 13 → y < 32) (rest : List UInt8) :
    decodeFrom index (a :: b :: c :: rest) =
      (decodeFrom (index + 3) rest).map (Char.ofNat ((x * 64 + y) * 64 + z) :: ·) := by
  obtain ⟨hbc, hbp⟩ := isContinuation_of hb hy
  obtain ⟨hcc, hcp⟩ := isContinuation_of hc hz
  have h1 : ¬a < 0x80 := by
    simp only [UInt8.lt_iff_toNat_lt, ha, UInt8.reduceToNat]
    omega
  have h2 : ¬(0xC2 ≤ a ∧ a ≤ 0xDF) := by
    simp only [UInt8.le_iff_toNat_le, ha, UInt8.reduceToNat]
    omega
  have h3 : 0xE0 ≤ a ∧ a ≤ 0xEF := by
    simp only [UInt8.le_iff_toNat_le, ha, UInt8.reduceToNat]
    omega
  have hfit : fitsThree a b = true := by
    simp only [fitsThree, Bool.and_eq_true, decide_eq_true_eq, ← UInt8.toNat_inj, ha,
      UInt8.reduceToNat]
    constructor <;> split <;> simp only [UInt8.le_iff_toNat_le, hb, UInt8.reduceToNat] <;> omega
  rw [decodeFrom.eq_def]
  dsimp only
  rw [if_neg h1, if_neg h2, if_pos h3, if_neg (by simp [hfit]), if_neg (by simp [hcc]), hbp, hcp,
    ha, show (x + 0xE0) % 16 = x by omega]

/-- The second octet shuts out codes that fit in three octets, and those beyond the last. -/
theorem decodeFrom_four (index : Nat) {a b c d : UInt8} {w x y z : Nat}
    (ha : a.toNat = w + 0xF0) (hb : b.toNat = x + 0x80) (hc : c.toNat = y + 0x80)
    (hd : d.toNat = z + 0x80) (hw : w < 5) (hx : x < 64) (hy : y < 64) (hz : z < 64)
    (hlow : w = 0 → 16 ≤ x) (hhigh : w = 4 → x < 16) (rest : List UInt8) :
    decodeFrom index (a :: b :: c :: d :: rest) =
      (decodeFrom (index + 4) rest).map (Char.ofNat (((w * 64 + x) * 64 + y) * 64 + z) :: ·) := by
  obtain ⟨hbc, hbp⟩ := isContinuation_of hb hx
  obtain ⟨hcc, hcp⟩ := isContinuation_of hc hy
  obtain ⟨hdc, hdp⟩ := isContinuation_of hd hz
  have h1 : ¬a < 0x80 := by
    simp only [UInt8.lt_iff_toNat_lt, ha, UInt8.reduceToNat]
    omega
  have h2 : ¬(0xC2 ≤ a ∧ a ≤ 0xDF) := by
    simp only [UInt8.le_iff_toNat_le, ha, UInt8.reduceToNat]
    omega
  have h3 : ¬(0xE0 ≤ a ∧ a ≤ 0xEF) := by
    simp only [UInt8.le_iff_toNat_le, ha, UInt8.reduceToNat]
    omega
  have h4 : 0xF0 ≤ a ∧ a ≤ 0xF4 := by
    simp only [UInt8.le_iff_toNat_le, ha, UInt8.reduceToNat]
    omega
  have hfit : fitsFour a b = true := by
    simp only [fitsFour, Bool.and_eq_true, decide_eq_true_eq, ← UInt8.toNat_inj, ha,
      UInt8.reduceToNat]
    constructor <;> split <;> simp only [UInt8.le_iff_toNat_le, hb, UInt8.reduceToNat] <;> omega
  rw [decodeFrom.eq_def]
  dsimp only
  rw [if_neg h1, if_neg h2, if_neg h3, if_pos h4, if_neg (by simp [hfit]), if_neg (by simp [hcc]),
    if_neg (by simp [hdc]), hbp, hcp, hdp, ha, show (w + 0xF0) % 8 = w by omega]

/-! ## Characters and texts -/

theorem toNat_octet {n : Nat} (h : n < 256) : (UInt8.ofNat n).toNat = n := by
  rw [UInt8.toNat_ofNat', Nat.mod_eq_of_lt h]

/-- The octets of a character are read as this character. -/
theorem decodeFrom_char (index : Nat) (c : Char) (rest : List UInt8) :
    ∃ index', decodeFrom index (String.utf8EncodeChar c ++ rest) =
      (decodeFrom index' rest).map (c :: ·) := by
  have hv : c.val.toNat < 0xD800 ∨ 0xDFFF < c.val.toNat ∧ c.val.toNat < 0x110000 := c.valid
  have hc (n : Nat) (h : n = c.val.toNat) : Char.ofNat n = c := by
    rw [h]
    exact Char.ofNat_toNat c
  unfold String.utf8EncodeChar
  dsimp only
  generalize c.val.toNat = v at hv hc
  split
  · refine ⟨index + 1, ?_⟩
    have h1 : (UInt8.ofNat v).toNat = v := toNat_octet (by omega)
    rw [List.singleton_append, decodeFrom_one index (by omega), h1, hc v rfl]
  split
  · refine ⟨index + 2, (decodeFrom_two index (toNat_octet (by omega)) (toNat_octet (by omega))
      (by omega) (by omega) (by omega) rest).trans ?_⟩
    rw [hc _ (by omega)]
  split
  · refine ⟨index + 3, (decodeFrom_three index (toNat_octet (by omega)) (toNat_octet (by omega))
      (toNat_octet (by omega)) (by omega) (by omega) (by omega) (by omega) (by omega)
      rest).trans ?_⟩
    rw [hc _ (by omega)]
  · refine ⟨index + 4, (decodeFrom_four index (toNat_octet (by omega)) (toNat_octet (by omega))
      (toNat_octet (by omega)) (toNat_octet (by omega)) (by omega) (by omega) (by omega) (by omega)
      (by omega) (by omega) rest).trans ?_⟩
    rw [hc _ (by omega)]

theorem decodeFrom_encode (index : Nat) (text : List Char) :
    decodeFrom index (encode text) = .ok text := by
  induction text generalizing index with
  | nil => rfl
  | cons c text ih =>
    obtain ⟨index', h⟩ := decodeFrom_char index c (encode text)
    show decodeFrom index (String.utf8EncodeChar c ++ encode text) = _
    rw [h, ih]
    rfl

theorem decodeString_encodeString (text : String) :
    decodeString (encodeString text) = .ok text := by
  unfold decodeString decode encodeString
  rw [decodeFrom_encode]
  show Except.ok (String.ofList text.toList) = _
  rw [String.ofList_toList]

theorem encodeString_append (s t : String) :
    encodeString (s ++ t) = encodeString s ++ encodeString t := by
  unfold encodeString encode
  rw [String.toList_append, List.flatMap_append]

theorem encodeString_ofList (s : List Char) : encodeString (String.ofList s) = encode s := by
  rw [encodeString, String.toList_ofList]

theorem encodeString_empty : encodeString "" = [] := rfl

theorem encodeString_newline : encodeString "\n" = [newline] := by decide

/-- Beyond ASCII no octet is below 128. -/
theorem toNat_of_mem_char {c : Char} {b : UInt8} (h : b ∈ String.utf8EncodeChar c)
    (hb : b.toNat < 0x80) : c.toNat = b.toNat := by
  show c.val.toNat = _
  unfold String.utf8EncodeChar at h
  dsimp only at h
  generalize c.val.toNat = v at h
  split at h
  · rw [List.mem_singleton.mp h, toNat_octet (by omega)]
  -- every octet of a longer sequence is marked by its highest bit
  split at h
  · simp only [List.mem_cons, List.not_mem_nil, or_false] at h
    rcases h with rfl | rfl <;> rw [toNat_octet (by omega)] at hb <;> omega
  split at h
  · simp only [List.mem_cons, List.not_mem_nil, or_false] at h
    rcases h with rfl | rfl | rfl <;> rw [toNat_octet (by omega)] at hb <;> omega
  · simp only [List.mem_cons, List.not_mem_nil, or_false] at h
    rcases h with rfl | rfl | rfl | rfl <;> rw [toNat_octet (by omega)] at hb <;> omega

/-- Only the newline has an octet that is a newline. -/
theorem newline_not_mem_encodeString {text : String} (h : '\n' ∉ text.toList) :
    newline ∉ encodeString text := by
  intro hm
  obtain ⟨c, hc, hn⟩ := List.mem_flatMap.mp hm
  have hv := toNat_of_mem_char hn (by decide)
  have : c = '\n' := by
    rw [← Char.ofNat_toNat c, hv]
    rfl
  exact h (this ▸ hc)

/-! ## Octets that were read -/

theorem of_isContinuation {b : UInt8} (h : isContinuation b = true) :
    b.toNat = payload b + 0x80 ∧ payload b < 64 := by
  simp only [isContinuation, Bool.and_eq_true, decide_eq_true_eq, UInt8.le_iff_toNat_le,
    UInt8.reduceToNat] at h
  unfold payload
  omega

theorem eq_ofNat {b : UInt8} {n : Nat} (h : b.toNat = n) : UInt8.ofNat n = b := by
  rw [← h, UInt8.ofNat_toNat]

theorem encodeChar_one {a : UInt8} (ha : a < 0x80) :
    String.utf8EncodeChar (Char.ofNat a.toNat) = [a] := by
  have ha' : a.toNat < 0x80 := UInt8.lt_iff_toNat_lt.mp ha
  have hc : (Char.ofNat a.toNat).val.toNat = a.toNat := toNat_ofNat (by omega)
  unfold String.utf8EncodeChar
  dsimp only
  rw [hc, if_pos (by omega), UInt8.ofNat_toNat]

theorem encodeChar_two {a b : UInt8} (ha : 0xC2 ≤ a ∧ a ≤ 0xDF) (hb : isContinuation b = true) :
    String.utf8EncodeChar (Char.ofNat (a.toNat % 32 * 64 + payload b)) = [a, b] := by
  obtain ⟨hb, hlt⟩ := of_isContinuation hb
  simp only [UInt8.le_iff_toNat_le, UInt8.reduceToNat] at ha
  generalize payload b = y at hb hlt ⊢
  have hc : (Char.ofNat (a.toNat % 32 * 64 + y)).val.toNat = a.toNat % 32 * 64 + y :=
    toNat_ofNat (by omega)
  unfold String.utf8EncodeChar
  dsimp only
  rw [hc, if_neg (by omega), if_pos (by omega), eq_ofNat (b := a) (by omega),
    eq_ofNat (b := b) (by omega)]

theorem encodeChar_three {a b c : UInt8} (ha : 0xE0 ≤ a ∧ a ≤ 0xEF) (hab : fitsThree a b = true)
    (hc : isContinuation c = true) :
    String.utf8EncodeChar (Char.ofNat ((a.toNat % 16 * 64 + payload b) * 64 + payload c)) =
      [a, b, c] := by
  obtain ⟨hc, hclt⟩ := of_isContinuation hc
  have hb : b.toNat = payload b + 0x80 ∧ payload b < 64 ∧ (a.toNat = 0xE0 → 32 ≤ payload b) ∧
      (a.toNat = 0xED → payload b < 32) := by
    simp only [fitsThree, Bool.and_eq_true, decide_eq_true_eq, ← UInt8.toNat_inj,
      UInt8.reduceToNat] at hab
    obtain ⟨hlow, hhigh⟩ := hab
    unfold payload
    split at hlow <;> split at hhigh <;>
      simp only [UInt8.le_iff_toNat_le, UInt8.reduceToNat] at hlow hhigh <;> omega
  obtain ⟨hb, hblt, hlow, hhigh⟩ := hb
  simp only [UInt8.le_iff_toNat_le, UInt8.reduceToNat] at ha
  generalize payload b = y at hb hblt hlow hhigh ⊢
  generalize payload c = z at hc hclt ⊢
  have hv : (Char.ofNat ((a.toNat % 16 * 64 + y) * 64 + z)).val.toNat =
      (a.toNat % 16 * 64 + y) * 64 + z := toNat_ofNat (by omega)
  unfold String.utf8EncodeChar
  dsimp only
  rw [hv, if_neg (by omega), if_neg (by omega), if_pos (by omega), eq_ofNat (b := a) (by omega),
    eq_ofNat (b := b) (by omega), eq_ofNat (b := c) (by omega)]

theorem encodeChar_four {a b c d : UInt8} (ha : 0xF0 ≤ a ∧ a ≤ 0xF4) (hab : fitsFour a b = true)
    (hc : isContinuation c = true) (hd : isContinuation d = true) :
    String.utf8EncodeChar
      (Char.ofNat (((a.toNat % 8 * 64 + payload b) * 64 + payload c) * 64 + payload d)) =
      [a, b, c, d] := by
  obtain ⟨hc, hclt⟩ := of_isContinuation hc
  obtain ⟨hd, hdlt⟩ := of_isContinuation hd
  have hb : b.toNat = payload b + 0x80 ∧ payload b < 64 ∧ (a.toNat = 0xF0 → 16 ≤ payload b) ∧
      (a.toNat = 0xF4 → payload b < 16) := by
    simp only [fitsFour, Bool.and_eq_true, decide_eq_true_eq, ← UInt8.toNat_inj,
      UInt8.reduceToNat] at hab
    obtain ⟨hlow, hhigh⟩ := hab
    unfold payload
    split at hlow <;> split at hhigh <;>
      simp only [UInt8.le_iff_toNat_le, UInt8.reduceToNat] at hlow hhigh <;> omega
  obtain ⟨hb, hblt, hlow, hhigh⟩ := hb
  simp only [UInt8.le_iff_toNat_le, UInt8.reduceToNat] at ha
  generalize payload b = x at hb hblt hlow hhigh ⊢
  generalize payload c = y at hc hclt ⊢
  generalize payload d = z at hd hdlt ⊢
  have hv : (Char.ofNat (((a.toNat % 8 * 64 + x) * 64 + y) * 64 + z)).val.toNat =
      ((a.toNat % 8 * 64 + x) * 64 + y) * 64 + z := toNat_ofNat (by omega)
  unfold String.utf8EncodeChar
  dsimp only
  rw [hv, if_neg (by omega), if_neg (by omega), if_neg (by omega), eq_ofNat (b := a) (by omega),
    eq_ofNat (b := b) (by omega), eq_ofNat (b := c) (by omega), eq_ofNat (b := d) (by omega)]

theorem encode_of_map {index : Nat} {c : Char} {octets rest : List UInt8} {text : List Char}
    (hc : String.utf8EncodeChar c = octets)
    (ih : ∀ {text}, decodeFrom index rest = .ok text → encode text = rest)
    (h : (decodeFrom index rest).map (c :: ·) = .ok text) : encode text = octets ++ rest := by
  cases hr : decodeFrom index rest with
  | error malformed => rw [hr] at h; cases h
  | ok read =>
    rw [hr] at h
    cases h
    rw [← ih hr, ← hc]
    rfl

/-- Octets that are read as a text are those of this text. -/
theorem encode_of_decodeFrom {index : Nat} {bytes : List UInt8} {text : List Char}
    (h : decodeFrom index bytes = .ok text) : encode text = bytes := by
  -- all cases but the five below are failures
  fun_induction decodeFrom index bytes generalizing text with
  | case1 index => cases h; rfl
  | case2 index a rest ha ih => exact encode_of_map (encodeChar_one ha) ih h
  | case4 index a _ ha b rest hb ih => exact encode_of_map (encodeChar_two ha hb) ih h
  | case10 index a _ _ ha b c rest hab hc ih =>
    exact encode_of_map (encodeChar_three ha (by simpa using hab) (by simpa using hc)) ih h
  | case17 index a _ _ _ ha b c d rest hab hc hd ih =>
    exact encode_of_map
      (encodeChar_four ha (by simpa using hab) (by simpa using hc) (by simpa using hd)) ih h
  | _ => cases h

/-- Octets are a text just if they are those of the text. -/
theorem decodeString_eq_ok_iff {bytes : List UInt8} {text : String} :
    decodeString bytes = .ok text ↔ encodeString text = bytes := by
  constructor
  · intro h
    unfold decodeString decode at h
    cases hr : decodeFrom 0 bytes with
    | error malformed => rw [hr] at h; cases h
    | ok read =>
      rw [hr] at h
      cases h
      rw [encodeString_ofList]
      exact encode_of_decodeFrom hr
  · rintro rfl
    exact decodeString_encodeString text

theorem encode_injective {s t : List Char} (h : encode s = encode t) : s = t := by
  have hs := decodeFrom_encode 0 s
  rw [h, decodeFrom_encode] at hs
  cases hs
  rfl

end SqlGuard.Text.Utf8
