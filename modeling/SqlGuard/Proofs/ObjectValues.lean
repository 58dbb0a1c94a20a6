import SqlGuard.Profile.Json
import SqlGuard.Proofs.Numerals
import SqlGuard.Proofs.Readers
import SqlGuard.Proofs.Settings
import SqlGuard.Proofs.Spellings

/-!
# Values of an object

`Value` says how a value may be written: a string in any way, a number in decimal
with nothing to spare, since a zero behind a minus sign is a fraction.

* `yields_readQuoted`, `yields_skipQuoted`: a string is read as its text, or skipped.
* `yields_readSetting`, `yields_skipValue`: a value is read as its setting, or skipped.
* `exists_value`: all values can be written.
-/
namespace SqlGuard.Profile.Json

open Text Utf8 Reader

/-! ## Values as they are written -/

/-- Blanks between the parts of a document. -/
def Blanks (w : List Char) : Prop := ∀ c ∈ w, c ∈ [' ', '\n', '\t', '\r']

/-- Stands for itself in a string. -/
def Verbatim (c : Char) : Prop := 0x20 ≤ c.toNat ∧ c ≠ '"' ∧ c ≠ '\\'

instance : DecidablePred Verbatim := fun _ => inferInstanceAs (Decidable (_ ∧ _))

/-- What a single character behind a backslash stands for. -/
def marks : List (Char × Char) :=
  [('"', '"'), ('\\', '\\'), ('/', '/'), ('b', '\x08'), ('f', '\x0c'), ('n', '\n'), ('r', '\r'),
    ('t', '\t')]

/-- What stands behind a backslash, and the character it stands for. A character beyond four digits
is written as a pair of halves. -/
inductive Escape : List Char → Char → Prop
  | mark {e c : Char} (h : (e, c) ∈ marks) : Escape [e] c
  | number {digits : List Char} {c : Char} (hlength : digits.length = 4)
    (h : Hex digits c.toNat) : Escape ('u' :: digits) c
  | pair {high low : List Char} {m n : Nat} {c : Char} (hhigh : high.length = 4) (hm : Hex high m)
    (hlow : low.length = 4) (hn : Hex low n) (hleading : 0xD800 ≤ m ∧ m < 0xDC00)
    (htrailing : 0xDC00 ≤ n ∧ n < 0xE000)
    (hc : c.toNat = 0x10000 + (m - 0xD800) * 0x400 + (n - 0xDC00)) :
    Escape ('u' :: (high ++ '\\' :: 'u' :: low)) c

/-- A text between quotes. -/
inductive Quoted : List Char → String → Prop
  | mk {w text : List Char} (h : Written Verbatim Escape w text) :
    Quoted ('"' :: (w ++ ['"'])) (String.ofList text)

inductive Value : List Char → Plain → Prop
  | text {w : List Char} {t : String} (h : Quoted w t) : Value w (.text t)
  | true : Value ['t', 'r', 'u', 'e'] (.bool true)
  | false : Value ['f', 'a', 'l', 's', 'e'] (.bool false)
  | integer (n : Int64) : Value (toString n.toInt).toList (.integer n)

/-! ## Octets of a document -/

theorem encode_append (s t : List Char) : encode (s ++ t) = encode s ++ encode t :=
  List.flatMap_append

theorem encode_cons (c : Char) (s : List Char) :
    encode (c :: s) = String.utf8EncodeChar c ++ encode s :=
  List.flatMap_cons

theorem encode_quote (s : List Char) : encode ('"' :: s) = quote :: encode s := rfl

theorem encode_backslash (s : List Char) : encode ('\\' :: s) = backslash :: encode s := rfl

theorem encode_u (s : List Char) : encode ('u' :: s) = 117 :: encode s := rfl

theorem encode_colon (s : List Char) : encode (':' :: s) = colon :: encode s := rfl

theorem encode_comma (s : List Char) : encode (',' :: s) = comma :: encode s := rfl

theorem encode_open (s : List Char) : encode ('\x7b' :: s) = openObject :: encode s := rfl

/-- A character of one octet. -/
theorem encode_ascii {c : Char} (h : c.toNat < 128) (s : List Char) :
    encode (c :: s) = UInt8.ofNat c.toNat :: encode s := by
  have hone := encodeChar_one (a := UInt8.ofNat c.toNat) (by
    rw [UInt8.lt_iff_toNat_lt, toNat_octet (by omega)]
    exact h)
  rw [toNat_octet (by omega), Char.ofNat_toNat] at hone
  rw [encode_cons, hone]
  rfl

theorem length_le_encode (s : List Char) : s.length ≤ (encode s).length := by
  induction s with
  | nil => exact Nat.le_refl _
  | cons c s ih =>
    have hc : 0 < (String.utf8EncodeChar c).length := by
      rw [String.length_utf8EncodeChar]
      exact Char.utf8Size_pos c
    rw [encode_cons, List.length_append, List.length_cons]
    omega

theorem isBlank_of_mem {b : List Char} (hb : Blanks b) : ∀ o ∈ encode b, isBlank o = true := by
  induction b with
  | nil => simp [encode]
  | cons c b ih =>
    obtain ⟨hc, hb⟩ := List.forall_mem_cons.mp hb
    have hone : ∀ o ∈ String.utf8EncodeChar c, isBlank o = true := by
      simp only [List.mem_cons, List.not_mem_nil, or_false] at hc
      rcases hc with rfl | rfl | rfl | rfl <;> exact List.all_eq_true.mp (by decide)
    intro o ho
    rw [encode_cons, List.mem_append] at ho
    exact ho.elim (hone o) (ih hb o)

theorem isStringOctet_of_mem {c : Char} (hc : Verbatim c) :
    ∀ o ∈ String.utf8EncodeChar c, isStringOctet o = true := by
  obtain ⟨hlow, hquote, hbackslash⟩ := hc
  intro o ho
  have hsame : o.toNat < 0x80 → c.toNat = o.toNat := toNat_of_mem_char ho
  have hne {d : Char} (hd : c ≠ d) (hlt : d.toNat < 0x80) : o.toNat ≠ d.toNat := fun h =>
    hd (Char.toNat_inj.mp ((hsame (h ▸ hlt)).trans h))
  have h₁ : o.toNat ≠ 34 := hne hquote (by decide)
  have h₂ : o.toNat ≠ 92 := hne hbackslash (by decide)
  have h₃ : 32 ≤ o.toNat := by omega
  simp only [isStringOctet, Bool.and_eq_true, ne_eq, decide_eq_true_eq,
    UInt8.le_iff_toNat_le, quote, backslash, ← UInt8.toNat_inj]
  exact ⟨⟨h₁, h₂⟩, h₃⟩

/-! ## Blanks and tokens -/

section Tokens

variable {b b' : List Char} {s t : List UInt8} {c : UInt8}

theorem yields_skip (c : UInt8) (s : List UInt8) : Yields skip (c :: s) () s :=
  (yields_take c s).discard

theorem yields_peekToken (hb : Blanks b) (hs : ∀ c ∈ s.head?, isBlank c = false) :
    Yields peekToken (encode b ++ s) s.head? s :=
  (yields_takeWhile _ (isBlank_of_mem hb) hs).discard.bind (yields_peek s)

theorem yields_peekToken_cons (hb : Blanks b) (hc : isBlank c = false) :
    Yields peekToken (encode b ++ c :: s) (some c) (c :: s) :=
  yields_peekToken hb (by simpa using hc)

theorem yields_peekValue (hb : Blanks b) (hc : isBlank c = false) :
    Yields peekValue (encode b ++ c :: s) c (c :: s) :=
  (yields_peekToken_cons hb hc).bind (yields_pure c _)

theorem yields_peekIs (fits : UInt8 → Bool) (c : UInt8) (s : List UInt8) :
    Yields (peekIs fits) (c :: s) (fits c) (c :: s) :=
  (yields_peek _).bind (yields_pure _ _)

theorem yields_readColon (hb : Blanks b) (s : List UInt8) :
    Yields readColon (encode b ++ colon :: s) () s :=
  (yields_peekToken_cons hb rfl).bind (yields_skip colon s)

theorem yields_takeObjectEnd (s : List UInt8) : Yields takeObjectEnd (closeObject :: s) () s :=
  (yields_peekToken_cons (b := []) (by simp [Blanks]) rfl).bind (yields_skip closeObject s)

theorem yields_anotherName_first (hb : Blanks b) (s : List UInt8) :
    Yields (anotherName true) (encode b ++ quote :: s) true (quote :: s) :=
  (yields_peekToken_cons hb rfl).bind (yields_pure _ _)

theorem yields_anotherName_next (hb : Blanks b) (hb' : Blanks b') (s : List UInt8) :
    Yields (anotherName false) (encode b ++ comma :: (encode b' ++ quote :: s)) true (quote :: s) :=
  (yields_peekToken_cons hb rfl).bind <| (yields_skip comma _).bind <|
    (yields_peekToken_cons hb' rfl).bind (yields_pure _ _)

theorem yields_anotherName_close (first : Bool) (hb : Blanks b) (s : List UInt8) :
    Yields (anotherName first) (encode b ++ closeObject :: s) false (closeObject :: s) :=
  (yields_peekToken_cons hb rfl).bind (yields_pure _ _)

theorem yields_readWord (w : List UInt8) (s : List UInt8) : Yields (readWord w) (w ++ s) () s := by
  induction w with
  | nil => exact yields_pure _ _
  | cons c w ih =>
    refine (yields_take c _).bind ?_
    dsimp only
    rw [if_pos rfl]
    exact ih

end Tokens

/-! ## Strings -/

section Strings

variable {s t : List UInt8} {w text : List Char} {fuel : Nat}

theorem yields_readHex {digits : List Char} {n : Nat} (h : Hex digits n)
    (hlength : digits.length = 4) (s : List UInt8) : Yields readHex (encode digits ++ s) n s := by
  obtain ⟨a, b, c, d, a', b', c', d', rfl, ha, hb, hc, hd, hn⟩ := hex_four h hlength
  have hvalue {c : Char} {v : Nat} (h : ConnectionString.hexValue c = some v) :
      ConnectionString.hexValue (Char.ofNat (UInt8.ofNat c.toNat).toNat) = some v := by
    rw [toNat_octet (by have := hexValue_bound h; omega), Char.ofNat_toNat]
    exact h
  have hencode : encode [a, b, c, d] =
      [UInt8.ofNat a.toNat, UInt8.ofNat b.toNat, UInt8.ofNat c.toNat, UInt8.ofNat d.toNat] := by
    rw [encode_ascii (hexValue_bound ha).1, encode_ascii (hexValue_bound hb).1,
      encode_ascii (hexValue_bound hc).1, encode_ascii (hexValue_bound hd).1]
    rfl
  rw [hencode]
  refine (yields_takeCount [_, _, _, _] s).bind ?_
  simp only [List.length_cons, List.length_nil, Nat.reduceAdd, Nat.lt_irrefl, if_false,
    List.map_cons, List.map_nil, hvalue ha, hvalue hb, hvalue hc, hvalue hd, hn]
  exact yields_pure n s

theorem yields_expectSecondHalf (c : UInt8) (s : List UInt8) :
    Yields (expectSecondHalf c) (c :: s) () s := by
  refine (yields_take c s).bind ?_
  dsimp only
  rw [if_pos rfl]
  exact yields_pure _ _

/-- An escape is read as the character that it stands for. -/
theorem yields_readEscape {e : List Char} {c : Char} (h : Escape e c) (s : List UInt8) :
    Yields readEscape (encode e ++ s) c s := by
  have hu {t : List UInt8} (h : Yields readHexEscape t c s) : Yields readEscape (117 :: t) c s :=
    (yields_take 117 _).bind h
  cases h with
  | mark h =>
    simp only [marks, List.mem_cons, Prod.mk.injEq, List.not_mem_nil, or_false] at h
    rcases h with ⟨rfl, rfl⟩ | ⟨rfl, rfl⟩ | ⟨rfl, rfl⟩ | ⟨rfl, rfl⟩ | ⟨rfl, rfl⟩ | ⟨rfl, rfl⟩ |
      ⟨rfl, rfl⟩ | ⟨rfl, rfl⟩ <;> exact (yields_take _ _).bind (yields_pure _ _)
  | @number digits c hlength h =>
    have hv : c.toNat < 0xD800 ∨ 0xDFFF < c.toNat ∧ c.toNat < 0x110000 := c.valid
    have htrailing : isTrailing c.toNat = false := by
      simp only [isTrailing, Bool.and_eq_false_iff, decide_eq_false_iff_not]
      omega
    have hleading : isLeading c.toNat = false := by
      simp only [isLeading, Bool.and_eq_false_iff, decide_eq_false_iff_not]
      omega
    rw [encode_u]
    refine hu ((yields_readHex h hlength s).bind ?_)
    rw [htrailing, hleading, Char.ofNat_toNat]
    exact yields_pure c s
  | @pair high low m n c hhigh hm hlow hn hleading htrailing hc =>
    have hm' : isTrailing m = false ∧ isLeading m = true := by
      simp only [isTrailing, isLeading, Bool.and_eq_false_iff, decide_eq_false_iff_not,
        Bool.and_eq_true, decide_eq_true_eq]
      omega
    have hn' : isTrailing n = true := by
      simp only [isTrailing, Bool.and_eq_true, decide_eq_true_eq]
      omega
    have hcode : (m - 0xD800) * 1024 + (n - 0xDC00) + 0x10000 = c.toNat := by omega
    rw [encode_u, encode_append, encode_backslash, encode_u, List.cons_append, List.append_assoc]
    refine hu ((yields_readHex hm hhigh _).bind ?_)
    rw [hm'.1, hm'.2]
    refine (yields_expectSecondHalf _ _).bind ((yields_expectSecondHalf _ _).bind
      ((yields_readHex hn hlow s).bind ?_))
    rw [hn', hcode, Char.ofNat_toNat]
    exact yields_pure c s

/-- What `readString` does behind octets that stand for themselves. -/
def readBehind (fuel : Nat) (front : List UInt8) : Read (List UInt8) := do
  match ← take with
  | none => failHere .endInString
  | some b =>
    if b = quote then pure front
    else if b = backslash then
      let c ← readEscape
      return front ++ String.utf8EncodeChar c ++ (← readString fuel)
    else failHere .controlCharacter

theorem readBehind_append (fuel : Nat) (front more : List UInt8) (c : Cursor) :
    readBehind fuel (front ++ more) c =
      (readBehind fuel more c).map fun result => (front ++ result.1, result.2) := by
  obtain ⟨s, p⟩ := c
  cases s with
  | nil => rfl
  | cons b s =>
    show (if b = quote then _ else if b = backslash then _ else _ : Read _) _ =
      ((if b = quote then _ else if b = backslash then _ else _ : Read _) _).map _
    by_cases hquote : b = quote
    · rw [if_pos hquote, if_pos hquote]
      rfl
    rw [if_neg hquote, if_neg hquote]
    by_cases hbackslash : b = backslash
    · rw [if_pos hbackslash, if_pos hbackslash]
      show (readEscape _ >>= fun escaped => (readString fuel _ >>= _)) =
        (readEscape _ >>= fun escaped => (readString fuel _ >>= _)).map _
      cases readEscape ⟨s, p.after b⟩ with
      | error fault => rfl
      | ok escaped =>
        show (readString fuel escaped.2 >>= _) = (readString fuel escaped.2 >>= _).map _
        cases readString fuel escaped.2 with
        | error fault => rfl
        | ok text =>
          show Except.ok (front ++ more ++ _ ++ text.1, text.2) =
            .ok (front ++ (more ++ _ ++ text.1), text.2)
          simp only [List.append_assoc]
    · rw [if_neg hbackslash, if_neg hbackslash]
      rfl

/-- Octets that stand for themselves are the beginning of a string. -/
theorem yields_readString_append {front s t x : List UInt8}
    (hfront : ∀ o ∈ front, isStringOctet o = true) (h : Yields (readString fuel) s x t) :
    Yields (readString fuel) (front ++ s) (front ++ x) t := by
  cases fuel with
  | zero =>
    obtain ⟨_, hp⟩ := h .start
    cases hp
  | succ fuel =>
    intro p
    obtain ⟨q, hq⟩ := span_append hfront s p
    obtain ⟨q', hq'⟩ := h q
    refine ⟨q', ?_⟩
    show readBehind fuel (span isStringOctet p (front ++ s)).1
      (span isStringOctet p (front ++ s)).2 = _
    rw [hq, readBehind_append]
    have hs : readBehind fuel (span isStringOctet q s).1 (span isStringOctet q s).2 =
        .ok (x, ⟨t, q'⟩) := hq'
    rw [hs]
    rfl

/-- What is written between quotes is read as the text. -/
theorem yields_readString (h : Written Verbatim Escape w text) (hfuel : w.length < fuel)
    (s : List UInt8) : Yields (readString fuel) (encode w ++ quote :: s) (encode text) s := by
  induction h generalizing fuel with
  | nil =>
    obtain ⟨fuel, rfl⟩ := Nat.exists_eq_succ_of_ne_zero (Nat.ne_zero_of_lt hfuel)
    exact (yields_takeWhile [] (by simp) (by simp [isStringOctet, quote])).bind
      ((yields_take quote s).bind (yields_pure _ _))
  | @plain c w text hc h ih =>
    rw [encode_cons, encode_cons, List.append_assoc]
    exact yields_readString_append (isStringOctet_of_mem hc)
      (ih (by rw [List.length_cons] at hfuel; omega))
  | @escape e c w text he h ih =>
    obtain ⟨fuel, rfl⟩ := Nat.exists_eq_succ_of_ne_zero (Nat.ne_zero_of_lt hfuel)
    rw [encode_backslash, encode_append, encode_cons, List.cons_append, List.append_assoc]
    refine (yields_takeWhile [] (by simp) (by simp [isStringOctet, backslash])).bind
      ((yields_take backslash _).bind ((yields_readEscape he _).bind
        ((@ih fuel ?_).bind (yields_pure _ _))))
    rw [List.length_cons, List.length_append] at hfuel
    omega

/-- What `skipString` does behind octets that stand for themselves. -/
def skipBehind (fuel : Nat) : Read Unit := do
  match ← peek with
  | none => failHere .endInString
  | some b =>
    if b = quote then skip
    else if b = backslash then
      skip
      match ← take with
      | none => failHere .endInString
      | some e =>
        if (plainEscape e).isSome then skipString fuel
        else if e = 117 then
          discard readHex
          skipString fuel
        else failHere .badEscape
    else failHere .controlCharacter

/-- Octets that stand for themselves are skipped at the beginning of a string. -/
theorem yields_skipString_append {front s t : List UInt8}
    (hfront : ∀ o ∈ front, isStringOctet o = true) (h : Yields (skipString fuel) s () t) :
    Yields (skipString fuel) (front ++ s) () t := by
  cases fuel with
  | zero =>
    obtain ⟨_, hp⟩ := h .start
    cases hp
  | succ fuel =>
    intro p
    obtain ⟨q, hq⟩ := span_append hfront s p
    obtain ⟨q', hq'⟩ := h q
    refine ⟨q', ?_⟩
    show skipBehind fuel (span isStringOctet p (front ++ s)).2 = _
    rw [hq]
    exact hq'

theorem yields_skipString_escape {o : UInt8} {s t : List UInt8}
    (h : Yields (if (plainEscape o).isSome then skipString fuel
      else if o = 117 then discard readHex >>= fun _ => skipString fuel
      else failHere .badEscape) s () t) :
    Yields (skipString (fuel + 1)) (backslash :: o :: s) () t :=
  (yields_takeWhile [] (by simp) (by simp [isStringOctet, backslash])).discard.bind <|
    (yields_peek _).bind <| (yields_skip backslash _).bind <| (yields_take o s).bind h

theorem yields_skipString_number {digits : List Char} {n : Nat} {s t : List UInt8}
    (hlength : digits.length = 4) (hdigits : Hex digits n)
    (h : Yields (skipString fuel) s () t) :
    Yields (skipString (fuel + 1)) (backslash :: 117 :: (encode digits ++ s)) () t :=
  yields_skipString_escape ((yields_readHex hdigits hlength s).discard.bind h)

/-- What is written between quotes is skipped. A pair of halves takes two rounds. -/
theorem yields_skipString (h : Written Verbatim Escape w text) (hfuel : w.length < fuel)
    (s : List UInt8) : Yields (skipString fuel) (encode w ++ quote :: s) () s := by
  induction h generalizing fuel with
  | nil =>
    obtain ⟨fuel, rfl⟩ := Nat.exists_eq_succ_of_ne_zero (Nat.ne_zero_of_lt hfuel)
    exact (yields_takeWhile [] (by simp) (by simp [isStringOctet, quote])).discard.bind
      ((yields_peek _).bind (yields_skip quote s))
  | @plain c w text hc h ih =>
    rw [encode_cons, List.append_assoc]
    exact yields_skipString_append (isStringOctet_of_mem hc)
      (ih (by rw [List.length_cons] at hfuel; omega))
  | @escape e c w text he h ih =>
    obtain ⟨fuel, rfl⟩ := Nat.exists_eq_succ_of_ne_zero (Nat.ne_zero_of_lt hfuel)
    rw [List.length_cons, List.length_append] at hfuel
    rw [encode_backslash, encode_append, List.cons_append, List.append_assoc]
    cases he with
    | mark h =>
      have hrest := @ih fuel (by omega)
      simp only [marks, List.mem_cons, Prod.mk.injEq, List.not_mem_nil, or_false] at h
      rcases h with ⟨rfl, rfl⟩ | ⟨rfl, rfl⟩ | ⟨rfl, rfl⟩ | ⟨rfl, rfl⟩ | ⟨rfl, rfl⟩ | ⟨rfl, rfl⟩ |
        ⟨rfl, rfl⟩ | ⟨rfl, rfl⟩ <;> exact yields_skipString_escape hrest
    | number hlength h =>
      rw [encode_u]
      exact yields_skipString_number hlength h (ih (by omega))
    | @pair high low m n c hhigh hm hlow hn hleading htrailing hc =>
      rw [List.length_cons, List.length_append, List.length_cons, List.length_cons] at hfuel
      obtain ⟨fuel, rfl⟩ := Nat.exists_eq_succ_of_ne_zero (show fuel ≠ 0 by omega)
      rw [encode_u, encode_append, encode_backslash, encode_u, List.cons_append, List.append_assoc]
      exact yields_skipString_number hhigh hm
        (yields_skipString_number hlow hn (ih (by omega)))

theorem Quoted.head {text : String} (h : Quoted w text) : ∃ t, encode w = quote :: t := by
  cases h
  exact ⟨_, encode_quote _⟩

theorem encode_quoted (w : List Char) (s : List UInt8) :
    encode ('"' :: (w ++ ['"'])) ++ s = quote :: (encode w ++ quote :: s) := by
  rw [encode_quote, encode_append, List.cons_append, List.append_assoc]
  rfl

theorem length_lt (w : List Char) (s : List UInt8) :
    w.length < (encode w ++ quote :: s).length + 1 := by
  have := length_le_encode w
  rw [List.length_append]
  omega

/-- A text between quotes is read as the text. -/
theorem yields_readQuoted {text : String} (h : Quoted w text) (s : List UInt8) :
    Yields readQuoted (encode w ++ s) text s := by
  cases h with
  | @mk w text h =>
    rw [encode_quoted]
    refine (yields_skip quote _).bind ((yields_remaining _).bind
      ((yields_readString h (length_lt w s) s).bind ?_))
    rw [← encodeString_ofList, decodeString_encodeString]
    exact yields_pure _ _

/-- A text between quotes is skipped behind the first one. -/
theorem yields_skipQuoted {text : String} (h : Quoted w text) (s : List UInt8) :
    ∃ t, encode w ++ s = quote :: t ∧ Yields (skipString (t.length + 1)) t () s := by
  cases h with
  | @mk w text h => exact ⟨_, encode_quoted w s, yields_skipString h (length_lt w s) s⟩

end Strings

/-! ## Numbers -/

section Numbers

open Number

variable {s : List UInt8} {o : UInt8} {octets : List UInt8} {n : Nat}

theorem isDigit_digitOctet {d : Nat} (hd : d < 10) :
    isDigit (digitOctet d) = true ∧ digitOf (digitOctet d) = d := by
  have hoctet : (digitOctet d).toNat = 48 + d := toNat_octet (by omega)
  constructor
  · simp only [isDigit, Bool.and_eq_true, decide_eq_true_eq, UInt8.le_iff_toNat_le, hoctet,
      UInt8.reduceToNat]
    omega
  · rw [digitOf, hoctet, Nat.add_sub_cancel_left]

theorem isDigit_of_denotes (h : Denotes octets n) : ∀ o ∈ octets, isDigit o = true := by
  induction h with
  | digit hd => simpa using (isDigit_digitOctet hd).1
  | more h hd ih =>
    intro o ho
    rcases List.mem_append.mp ho with ho | ho
    · exact ih o ho
    · rw [List.mem_singleton.mp ho]
      exact (isDigit_digitOctet hd).1

/-- Digits of a number of 64 bits are all kept. -/
theorem wholeDigits_of_denotes (h : Denotes octets n) (hn : n < twoTo 64) :
    wholeDigits octets = ⟨n, 0⟩ := by
  induction h with
  | @digit d hd =>
    simp [wholeDigits, (isDigit_digitOctet hd).2, fitsWord, hn]
  | @more octets n d h hd ih =>
    have hstep : wholeDigits (octets ++ [digitOctet d]) =
        let next := 10 * (wholeDigits octets).significand + digitOf (digitOctet d)
        if (wholeDigits octets).power = 0 && fitsWord next then ⟨next, 0⟩
        else ⟨(wholeDigits octets).significand, (wholeDigits octets).power + 1⟩ := by
      rw [wholeDigits, List.foldl_append]
      rfl
    rw [hstep, ih (by omega), (isDigit_digitOctet hd).2]
    simp [fitsWord, hn]

/-- No number goes on with that octet. -/
def Ending (o : UInt8) : Prop := o ∈ [32, 10, 9, 13, comma, closeObject]

instance : DecidablePred Ending := fun o =>
  inferInstanceAs (Decidable (o ∈ [32, 10, 9, 13, comma, closeObject]))

theorem Ending.inert (ho : Ending o) :
    isDigit o = false ∧ (decide (o = point)) = false ∧ isExponentMark o = false := by
  simp only [Ending, List.mem_cons, List.not_mem_nil, or_false] at ho
  rcases ho with rfl | rfl | rfl | rfl | rfl | rfl <;> decide

/-- The octets of a number in decimal: a zero on its own, or digits behind another one. -/
theorem encode_repr (n : Nat) :
    (n = 0 ∧ encode n.repr.toList = [48]) ∨
      ∃ o more, encode n.repr.toList = o :: more ∧ o ≠ 48 ∧ Denotes (o :: more) n := by
  rcases Nat.eq_zero_or_pos n with rfl | hn
  · exact .inl ⟨rfl, by decide⟩
  obtain ⟨c, ds, hds, hc⟩ := repr_head hn
  have hread := readDigits_repr n
  have hdenotes := denotes_of_readDigits hread
  have hdigit : Number.isDigit c = true := (readDigits_iff.mp hread).2.1 c (by rw [hds]; simp)
  obtain ⟨hlow, hhigh⟩ := isDigit_iff.mp hdigit
  rw [hds, encode_ascii (by omega)] at hdenotes ⊢
  refine .inr ⟨_, _, rfl, fun h => hc ?_, hdenotes⟩
  have hcode := congrArg UInt8.toNat h
  rw [toNat_octet (by omega)] at hcode
  exact Char.toNat_inj.mp hcode

/-- The setting of a number, with or without a sign. -/
theorem yields_readRest (ho : Ending o) (n : Nat) :
    Yields (readRest false ⟨n, 0⟩) (o :: s) (.integer n) (o :: s) := by
  obtain ⟨-, hpoint, hmark⟩ := ho.inert
  refine (yields_peekIs _ o s).bind ?_
  rw [hpoint]
  refine (yields_peekIs _ o s).bind ?_
  rw [hmark]
  exact yields_pure _ _

theorem yields_readRest_minus (ho : Ending o) (hn : 0 < n) (hn' : n ≤ twoTo 63) :
    Yields (readRest true ⟨n, 0⟩) (o :: s) (.integer (-n)) (o :: s) := by
  obtain ⟨-, hpoint, hmark⟩ := ho.inert
  refine (yields_peekIs _ o s).bind ?_
  rw [hpoint]
  refine (yields_peekIs _ o s).bind ?_
  rw [hmark]
  have hfits : ¬(decide (n = 0) || decide (twoTo 63 < n)) = true := by
    simp only [Bool.or_eq_true, decide_eq_true_eq]
    omega
  show Yields (if _ then _ else _ : Read Setting) _ _ _
  rw [if_neg hfits]
  exact yields_pure _ _

theorem yields_readNumber {negative : Bool} {x : Setting} (ho : Ending o) (hn : n < twoTo 64)
    (h : Yields (readRest negative ⟨n, 0⟩) (o :: s) x (o :: s)) :
    Yields (readNumber negative) (encode n.repr.toList ++ o :: s) x (o :: s) := by
  obtain ⟨hdigit, -, -⟩ := ho.inert
  rcases encode_repr n with ⟨rfl, hzero⟩ | ⟨d, more, hencode, hd, hdenotes⟩
  · rw [hzero]
    refine (yields_take 48 _).bind ((yields_peekIs _ o s).bind ?_)
    rw [hdigit]
    exact h
  · have hall := isDigit_of_denotes hdenotes
    rw [hencode]
    refine (yields_take d _).bind ?_
    dsimp only
    rw [if_neg hd, if_pos (hall d (by simp))]
    have hmore : ∀ c ∈ more, isDigit c = true := fun c hc => hall c (by simp [hc])
    refine (yields_takeWhile _ hmore (by simpa using hdigit)).bind ?_
    rw [wholeDigits_of_denotes hdenotes hn]
    exact h

theorem yields_skipNumber (ho : Ending o) (n : Nat) :
    Yields skipNumber (encode n.repr.toList ++ o :: s) () (o :: s) := by
  obtain ⟨hdigit, hpoint, hmark⟩ := ho.inert
  have hrest : Yields skipRest (o :: s) () (o :: s) := by
    refine (yields_peekIs _ o s).bind ?_
    rw [hpoint]
    refine (yields_peekIs _ o s).bind ?_
    rw [hmark]
    exact yields_pure _ _
  rcases encode_repr n with ⟨rfl, hzero⟩ | ⟨d, more, hencode, hd, hdenotes⟩
  · rw [hzero]
    refine (yields_take 48 _).bind ((yields_peekIs _ o s).bind ?_)
    rw [hdigit]
    exact hrest
  · have hall := isDigit_of_denotes hdenotes
    rw [hencode]
    refine (yields_take d _).bind ?_
    dsimp only
    rw [if_neg hd, if_pos (hall d (by simp))]
    have hmore : ∀ c ∈ more, isDigit c = true := fun c hc => hall c (by simp [hc])
    exact (yields_takeWhile _ hmore (by simpa using hdigit)).discard.bind hrest

theorem head_repr (n : Nat) : ∃ d more, encode n.repr.toList = d :: more ∧ isDigit d = true := by
  rcases encode_repr n with ⟨-, hzero⟩ | ⟨d, more, hencode, -, hdenotes⟩
  · exact ⟨48, [], hzero, by decide⟩
  · exact ⟨d, more, hencode, isDigit_of_denotes hdenotes d (by simp)⟩

end Numbers

/-! ## Values -/

section Values

variable {b w : List Char} {v : Plain} {s t : List UInt8} {o : UInt8}

theorem encode_minus (s : List Char) : encode ('-' :: s) = minus :: encode s := rfl

theorem blank_of_isDigit (ho : isDigit o = true) : isBlank o = false := by
  simp only [isDigit, Bool.and_eq_true, decide_eq_true_eq, UInt8.le_iff_toNat_le,
    UInt8.reduceToNat] at ho
  simp only [isBlank, Bool.or_eq_false_iff, decide_eq_false_iff_not, ← UInt8.toNat_inj,
    UInt8.reduceToNat]
  omega

theorem ne_of_isDigit {c : UInt8} (ho : isDigit o = true) (hc : isDigit c = false) : o ≠ c := by
  rintro rfl
  rw [ho] at hc
  cases hc

/-- A value is read as its setting. -/
theorem yields_readSetting (hb : Blanks b) (h : Value w v) (ho : Ending o) :
    Yields readSetting (encode b ++ (encode w ++ o :: s)) v.setting (o :: s) := by
  cases h with
  | text h =>
    obtain ⟨t, ht⟩ := h.head
    have hread := yields_readQuoted h (o :: s)
    rw [ht] at hread ⊢
    exact (yields_peekValue hb (c := quote) rfl).bind (hread.bind (yields_pure _ _))
  | true =>
    exact (yields_peekValue hb (c := 116) rfl).bind ((yields_skip 116 _).bind
      ((yields_readWord [114, 117, 101] _).bind (yields_pure _ _)))
  | false =>
    exact (yields_peekValue hb (c := 102) rfl).bind ((yields_skip 102 _).bind
      ((yields_readWord [97, 108, 115, 101] _).bind (yields_pure _ _)))
  | integer n =>
    have hlow := n.le_toInt
    have hhigh := n.toInt_lt
    rcases Number.toList_toString n.toInt with ⟨m, hm, htext⟩ | ⟨m, hpos, hm, htext⟩
    · have hread := yields_readNumber (s := s) ho (show m < twoTo 64 by simp [twoTo]; omega)
        (yields_readRest ho m)
      obtain ⟨d, more, hd, hdigit⟩ := head_repr m
      rw [htext, Plain.setting, hm]
      rw [hd] at hread ⊢
      refine (yields_peekValue hb (blank_of_isDigit hdigit)).bind ?_
      rw [if_neg (ne_of_isDigit hdigit rfl), if_neg (ne_of_isDigit hdigit rfl), if_pos hdigit]
      exact hread
    · have hread := yields_readNumber (s := s) ho (show m < twoTo 64 by simp [twoTo]; omega)
        (yields_readRest_minus ho hpos (show m ≤ twoTo 63 by simp [twoTo]; omega))
      rw [htext, Plain.setting, hm, encode_minus]
      exact (yields_peekValue hb rfl).bind ((yields_skip minus _).bind hread)

/-- A value is skipped, in one round. -/
theorem yields_skipValue (hb : Blanks b) (h : Value w v) (ho : Ending o) (fuel : Nat) :
    Yields (skipValue (fuel + 1) []) (encode b ++ (encode w ++ o :: s)) () (o :: s) := by
  have hsimple (h : Yields skipSimple (encode b ++ (encode w ++ o :: s)) none (o :: s)) :
      Yields (skipValue (fuel + 1) []) (encode b ++ (encode w ++ o :: s)) () (o :: s) :=
    h.bind ((yields_pure _ _).bind (yields_pure _ _))
  refine hsimple ?_
  cases h with
  | text h =>
    obtain ⟨t, ht, hskip⟩ := yields_skipQuoted h (o :: s)
    rw [ht]
    exact (yields_peekValue hb rfl).bind ((yields_skip quote t).bind ((yields_remaining t).bind
      (hskip.bind (yields_pure _ _))))
  | true =>
    exact (yields_peekValue hb (c := 116) rfl).bind ((yields_skip 116 _).bind
      ((yields_readWord [114, 117, 101] _).bind (yields_pure _ _)))
  | false =>
    exact (yields_peekValue hb (c := 102) rfl).bind ((yields_skip 102 _).bind
      ((yields_readWord [97, 108, 115, 101] _).bind (yields_pure _ _)))
  | integer n =>
    rcases Number.toList_toString n.toInt with ⟨m, -, htext⟩ | ⟨m, -, -, htext⟩
    · have hskip := yields_skipNumber (s := s) ho m
      obtain ⟨d, more, hd, hdigit⟩ := head_repr m
      rw [htext]
      rw [hd] at hskip ⊢
      refine (yields_peekValue hb (blank_of_isDigit hdigit)).bind ?_
      rw [if_neg (ne_of_isDigit hdigit rfl), if_neg (ne_of_isDigit hdigit rfl),
        if_neg (ne_of_isDigit hdigit rfl), if_neg (ne_of_isDigit hdigit rfl), if_pos hdigit]
      exact hskip.bind (yields_pure _ _)
    · have hskip := yields_skipNumber (s := s) ho m
      rw [htext, encode_minus]
      exact (yields_peekValue hb (c := minus) rfl).bind ((yields_skip minus _).bind
        (hskip.bind (yields_pure _ _)))

end Values

/-! ## Every value can be written -/

theorem exists_quoted (text : String) : ∃ w, Quoted w text := by
  have hescape (c : Char) (hc : ¬Verbatim c) : ∃ e, Escape e c := by
    have hlt : c.toNat < 128 := by
      by_contra h
      refine hc ⟨by omega, ?_, ?_⟩ <;> rintro rfl <;> exact h (by decide)
    exact ⟨_, .number rfl (hex_octet (by omega))⟩
  obtain ⟨w, hw⟩ := exists_written hescape text.toList
  have hquoted := Quoted.mk hw
  rw [String.ofList_toList] at hquoted
  exact ⟨_, hquoted⟩

theorem exists_value (v : Plain) : ∃ w, Value w v := by
  cases v with
  | text s =>
    obtain ⟨w, hw⟩ := exists_quoted s
    exact ⟨w, .text hw⟩
  | bool b => cases b with
    | true => exact ⟨_, .true⟩
    | false => exact ⟨_, .false⟩
  | integer n => exact ⟨_, .integer n⟩

end SqlGuard.Profile.Json
