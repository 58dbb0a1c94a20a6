import SqlGuard.ConnectionString.Path
import SqlGuard.Proofs.Octets

/-!
# Percent-encoded texts

`enc` can be read back (`percentDecode_enc`), and what it writes can stand in
any part of a connection string (`mem_enc`): no part encodes it a second time,
and it is no segment of dots unless the text is one (`unescapeDots_enc`). What a
part keeps of a text holds no character but those it keeps
(`mem_percentEncode`).
-/
namespace SqlGuard.ConnectionString

open Text Utf8

/-! ## Digits -/

theorem hexDigit_unreserved : ∀ n < 16, isUnreserved (hexDigit n) = true := by
  decide

theorem hexValue_hexDigit : ∀ n < 16, hexValue (hexDigit n) = some n := by
  decide

theorem mem_percentOctet {b : UInt8} {c : Char} (h : c ∈ percentOctet b) :
    isUnreserved c = true ∨ c = '%' := by
  have hb := b.toNat_lt
  simp only [percentOctet, List.mem_cons, List.not_mem_nil, or_false] at h
  rcases h with rfl | rfl | rfl
  · exact .inr rfl
  · exact .inl (hexDigit_unreserved _ (by omega))
  · exact .inl (hexDigit_unreserved _ (by omega))

/-! ## Characters of what is written -/

section Kept

variable {kept : Char → Bool} {s : List Char}

theorem percentEncode_cons (c : Char) :
    percentEncode kept (c :: s) = (if kept c then [c] else percentChar c) ++ percentEncode kept s :=
  List.flatMap_cons

/-- A text of nothing but such characters is written as it is. -/
theorem percentEncode_kept (h : ∀ c ∈ s, kept c = true) : percentEncode kept s = s := by
  induction s with
  | nil => rfl
  | cons c s ih =>
    rw [percentEncode_cons, if_pos (h c (by simp)), ih fun d hd => h d (by simp [hd])]
    rfl

theorem mem_percentEncode {c : Char} (h : c ∈ percentEncode kept s) :
    kept c = true ∨ isUnreserved c = true ∨ c = '%' := by
  obtain ⟨d, hd, hc⟩ := List.mem_flatMap.mp h
  split at hc
  · rename_i hkept
    rw [List.mem_singleton.mp hc]
    exact .inl hkept
  · obtain ⟨b, -, hb⟩ := List.mem_flatMap.mp hc
    exact .inr (mem_percentOctet hb)

theorem length_percentChar (c : Char) : 3 ≤ (percentChar c).length := by
  obtain ⟨b, rest, hoctets⟩ := List.exists_cons_of_ne_nil (String.utf8EncodeChar_ne_nil (c := c))
  rw [percentChar, hoctets, List.flatMap_cons, List.length_append]
  exact Nat.le_add_right 3 _

theorem length_percentEncode (kept : Char → Bool) (s : List Char) :
    s.length ≤ (percentEncode kept s).length := by
  induction s with
  | nil => exact Nat.zero_le _
  | cons c s ih =>
    have hchar := length_percentChar c
    rw [percentEncode_cons, List.length_append, List.length_cons]
    split
    · rw [List.length_singleton]
      omega
    · omega

/-- A character that is not kept makes the text longer. -/
theorem percentEncode_eq_self : percentEncode kept s = s ↔ ∀ c ∈ s, kept c = true := by
  refine ⟨fun h => ?_, percentEncode_kept⟩
  induction s with
  | nil => simp
  | cons c s ih =>
    rw [percentEncode_cons] at h
    split at h
    · rename_i hkept
      exact List.forall_mem_cons.mpr ⟨hkept, ih (List.cons.inj h).2⟩
    · have hlength := congrArg List.length h
      have hchar := length_percentChar c
      have hrest := length_percentEncode kept s
      rw [List.length_append, List.length_cons] at hlength
      omega

end Kept

theorem toList_enc (s : String) : (enc s).toList = percentEncode isUnreserved s.toList :=
  String.toList_ofList

theorem enc_eq_self {s : String} : enc s = s ↔ ∀ c ∈ s.toList, isUnreserved c = true := by
  rw [← percentEncode_eq_self, ← toList_enc, String.toList_inj]

theorem mem_enc {s : String} {c : Char} (h : c ∈ (enc s).toList) :
    isUnreserved c = true ∨ c = '%' := by
  rw [toList_enc] at h
  rcases mem_percentEncode h with h | h | h
  · exact .inl h
  · exact .inl h
  · exact .inr h

theorem enc_ne_nil {s : String} (h : s ≠ "") : (enc s).toList ≠ [] := by
  intro hnil
  have hlength := length_percentEncode isUnreserved s.toList
  rw [← toList_enc, hnil, List.length_nil, Nat.le_zero, List.length_eq_zero_iff] at hlength
  exact h (String.toList_eq_nil_iff.mp hlength)

/-! ## Reading back -/

theorem percentDecode_octet (b : UInt8) (rest : List Char) :
    percentDecode (percentOctet b ++ rest) = b :: percentDecode rest := by
  have hb := b.toNat_lt
  show percentDecode ('%' :: hexDigit (b.toNat / 16) :: hexDigit (b.toNat % 16) :: rest) = _
  rw [percentDecode, hexValue_hexDigit _ (by omega), hexValue_hexDigit _ (by omega)]
  show UInt8.ofNat (16 * (b.toNat / 16) + b.toNat % 16) :: _ = _
  rw [Nat.div_add_mod, UInt8.ofNat_toNat]

theorem percentDecode_octets (octets : List UInt8) (rest : List Char) :
    percentDecode (octets.flatMap percentOctet ++ rest) = octets ++ percentDecode rest := by
  induction octets with
  | nil => rfl
  | cons b octets ih =>
    rw [List.flatMap_cons, List.append_assoc, percentDecode_octet, ih]
    rfl

theorem percentDecode_cons {c : Char} (h : c ≠ '%') (rest : List Char) :
    percentDecode (c :: rest) = String.utf8EncodeChar c ++ percentDecode rest := by
  rw [percentDecode]
  rintro _ _ _ rfl
  exact absurd rfl h

/-- Decoding gives the octets of the text back. -/
theorem percentDecode_enc (s : String) : percentDecode (enc s).toList = encodeString s := by
  rw [toList_enc, encodeString]
  induction s.toList with
  | nil => rfl
  | cons c s ih =>
    rw [percentEncode_cons]
    split
    · rename_i hkept
      have hc : c ≠ '%' := by
        rintro rfl
        exact absurd hkept (by decide)
      rw [List.singleton_append, percentDecode_cons hc, ih]
      rfl
    · rw [percentChar, percentDecode_octets, ih]
      rfl

/-! ## Segments of dots -/

/-- A character that has the octet of the dot is the dot, and the dot is not encoded. -/
theorem unescapeDots_percentChar {c : Char} (h : isUnreserved c = false) (rest : List Char) :
    (unescapeDots (percentChar c ++ rest)).head? = some '%' := by
  obtain ⟨b, octets, hoctets⟩ := List.exists_cons_of_ne_nil (String.utf8EncodeChar_ne_nil (c := c))
  have hb : b.toNat ≠ 46 := by
    intro hb
    have hc : c.toNat = 46 := by
      rw [toNat_of_mem_char (c := c) (b := b) (by simp [hoctets]) (by omega), hb]
    rw [← Char.ofNat_toNat c, hc] at h
    exact absurd h (by decide)
  have hdigits : ∀ high < 16, ∀ low < 16, hexDigit high = '2' →
      hexDigit low = 'e' ∨ hexDigit low = 'E' → 16 * high + low = 46 := by
    decide
  rw [percentChar, hoctets, List.flatMap_cons, List.append_assoc]
  show (unescapeDots ('%' :: hexDigit (b.toNat / 16) :: hexDigit (b.toNat % 16) :: _)).head? = _
  have hne : hexDigit (b.toNat / 16) = '2' →
      ¬(hexDigit (b.toNat % 16) = 'e' ∨ hexDigit (b.toNat % 16) = 'E') := by
    intro hhigh hlow
    have hlt := b.toNat_lt
    have := hdigits _ (by omega) _ (by omega) hhigh hlow
    omega
  rw [unescapeDots]
  · rfl
  · intro _ _ heq
    exact hne (List.cons.inj heq).1 (.inl (List.cons.inj (List.cons.inj heq).2).1)
  · intro _ _ heq
    exact hne (List.cons.inj heq).1 (.inr (List.cons.inj (List.cons.inj heq).2).1)

theorem unescapeDots_cons {c : Char} (h : c ≠ '%') (rest : List Char) :
    unescapeDots (c :: rest) = c :: unescapeDots rest := by
  rw [unescapeDots]
  · rintro _ rfl
    exact absurd rfl h
  · rintro _ rfl
    exact absurd rfl h

/-- What is written is taken for a segment of dots only if the text is one. -/
theorem unescapeDots_enc {s : List Char} {n : Nat}
    (h : unescapeDots (percentEncode isUnreserved s) = List.replicate n '.') :
    s = List.replicate n '.' := by
  induction s generalizing n with
  | nil => exact h
  | cons c s ih =>
    rw [percentEncode_cons] at h
    split at h
    · rename_i hkept
      have hc : c ≠ '%' := by
        rintro rfl
        exact absurd hkept (by decide)
      rw [List.singleton_append, unescapeDots_cons hc] at h
      cases n with
      | zero => cases h
      | succ n =>
        obtain ⟨rfl, hs⟩ := List.cons.inj h
        rw [ih hs]
        rfl
    · rename_i hkept
      have hhead := unescapeDots_percentChar (by simpa using hkept) (percentEncode isUnreserved s)
      rw [h] at hhead
      cases n with
      | zero => cases hhead
      | succ n => cases hhead

end SqlGuard.ConnectionString
