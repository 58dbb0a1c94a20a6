import Mathlib.Data.Bool.AllAny
import SqlGuard.Profile.Toml.Value
import SqlGuard.Proofs.Numerals
import SqlGuard.Proofs.Settings
import SqlGuard.Proofs.TableStrings

/-!
# Values in the lines of a table

`Value` says which texts are a value in a line: a string, a truth value, or a
number in one of four bases. Digits alone are never a date, a time or a number with
a point or an exponent, since none of their marks stands among them or ends a value.

* `value_written`: a value is read as its setting, up to what ends it.
* `exists_value`: every value can be written.
-/
namespace SqlGuard.Profile.Toml

open Number

/-! ## Numbers as they are written -/

/-- Digits, with single underscores between some of them. -/
inductive Digits (fits : Char → Prop) : List Char → List Char → Prop
  | one {c : Char} (hc : fits c) : Digits fits [c] [c]
  | more {c : Char} {w digits : List Char} (hc : fits c) (h : Digits fits w digits) :
    Digits fits (c :: w) (c :: digits)
  | spaced {c : Char} {w digits : List Char} (hc : fits c) (h : Digits fits w digits) :
    Digits fits (c :: '_' :: w) (c :: digits)

/-- A number in decimal without leading zeros. -/
inductive Decimal : List Char → Nat → Prop
  | zero : Decimal ['0'] 0
  | positive {w digits : List Char} (h : Digits (isDigit · = true) w digits)
    (hzero : w.head? ≠ some '0') : Decimal w (digitsValue digits)

/-- The bases that are not decimal, and their letters. -/
def bases : List (Char × Nat) := [('x', 16), ('o', 8), ('b', 2)]

/-- The value of a digit is below the base. -/
def InBase (base : Nat) (c : Char) : Prop := ∃ d < base, ConnectionString.hexValue c = some d

inductive Integer : List Char → Int → Prop
  | bare {w : List Char} {n : Nat} (h : Decimal w n) : Integer w n
  | plus {w : List Char} {n : Nat} (h : Decimal w n) : Integer ('+' :: w) n
  | minus {w : List Char} {n : Nat} (h : Decimal w n) : Integer ('-' :: w) (-n)
  | based {letter : Char} {base n : Nat} {w digits : List Char} (hbase : (letter, base) ∈ bases)
    (h : Digits (InBase base) w digits)
    (hn : digits.foldl (fun n c => base * n + (ConnectionString.hexValue c).getD 0) 0 = n) :
    Integer ('0' :: letter :: w) n

inductive Value : List Char → Plain → Prop
  | text {w text : List Char} (h : Quoted w text) : Value w (.text (String.ofList text))
  | true : Value ['t', 'r', 'u', 'e'] (.bool true)
  | false : Value ['f', 'a', 'l', 's', 'e'] (.bool false)
  | integer {w : List Char} {n : Int64} (h : Integer w n.toInt) : Value w (.integer n)

/-! ## Digits -/

section Digits

variable {P : Char → Prop} {fits : Char → Bool} {w ds rest : List Char}

theorem Digits.head (h : Digits P w ds) : ∃ c s t, w = c :: s ∧ ds = c :: t ∧ P c := by
  cases h with
  | one hc => exact ⟨_, _, _, rfl, rfl, hc⟩
  | more hc h => exact ⟨_, _, _, rfl, rfl, hc⟩
  | spaced hc h => exact ⟨_, _, _, rfl, rfl, hc⟩

theorem Digits.all (h : Digits P w ds) : ∀ c ∈ ds, P c := by
  induction h with
  | one hc => simpa using hc
  | more hc h ih => exact List.forall_mem_cons.mpr ⟨hc, ih⟩
  | spaced hc h ih => exact List.forall_mem_cons.mpr ⟨hc, ih⟩

/-- Besides digits there are nothing but underscores. -/
theorem Digits.mem (h : Digits P w ds) : ∀ c ∈ w, P c ∨ c = '_' := by
  induction h with
  | one hc => simpa using .inl hc
  | more hc h ih => exact List.forall_mem_cons.mpr ⟨.inl hc, ih⟩
  | spaced hc h ih =>
    exact List.forall_mem_cons.mpr ⟨.inl hc, List.forall_mem_cons.mpr ⟨.inr rfl, ih⟩⟩

theorem digitRun_cons {c : Char} (hunder : fits '_' = false) (hc : fits c = true) (s : List Char) :
    digitRun fits (c :: s) = (c :: (digitRun fits s).1, (digitRun fits s).2) := by
  have hne : c ≠ '_' := by
    rintro rfl
    rw [hunder] at hc
    cases hc
  rw [digitRun, if_pos hc]
  exact fun _ _ h => absurd h hne

theorem digitRun_underscore {c : Char} (hunder : fits '_' = false) (hc : fits c = true)
    (s : List Char) : digitRun fits ('_' :: c :: s) = digitRun fits (c :: s) := by
  rw [digitRun_cons hunder hc, digitRun, if_pos hc]

theorem digitRun_nil (hrest : ∀ c ∈ rest.head?, fits c = false ∧ c ≠ '_') :
    digitRun fits rest = ([], rest) := by
  cases rest with
  | nil => rfl
  | cons c rest =>
    obtain ⟨hc, hne⟩ := hrest c rfl
    rw [digitRun, if_neg (by rw [hc]; decide)]
    exact fun _ _ h => absurd h hne

theorem digitRun_written (hunder : fits '_' = false) (hfits : ∀ c, P c → fits c = true)
    (h : Digits P w ds) (hrest : ∀ c ∈ rest.head?, fits c = false ∧ c ≠ '_') :
    digitRun fits (w ++ rest) = (ds, rest) := by
  induction h with
  | one hc =>
    rw [List.cons_append, digitRun_cons hunder (hfits _ hc), List.nil_append,
      digitRun_nil hrest]
  | more hc h ih => rw [List.cons_append, digitRun_cons hunder (hfits _ hc), ih]
  | spaced hc h ih =>
    obtain ⟨d, s, t, rfl, -, hd⟩ := h.head
    rw [List.cons_append] at ih
    rw [List.cons_append, digitRun_cons hunder (hfits _ hc), List.cons_append, List.cons_append,
      digitRun_underscore hunder (hfits _ hd), ih]

/-- Digits are read without the underscores between them. -/
theorem digits_written (hunder : fits '_' = false) (hfits : ∀ c, P c → fits c = true)
    (h : Digits P w ds) (hrest : ∀ c ∈ rest.head?, fits c = false ∧ c ≠ '_') :
    digits fits (w ++ rest) = some (ds, rest) := by
  obtain ⟨c, s, t, rfl, rfl, hc⟩ := h.head
  have hrun := digitRun_written hunder hfits h hrest
  rw [List.cons_append, digitRun_cons hunder (hfits c hc), Prod.mk.injEq] at hrun
  rw [List.cons_append, digits, if_pos (hfits c hc)]
  show some (c :: (digitRun fits (s ++ rest)).1, (digitRun fits (s ++ rest)).2) = _
  rw [hrun.1, hrun.2]

end Digits

/-! ## Neither dates nor times -/

section Dates

variable {w rest : List Char}

/-- No mark of a date or a time stands right behind a digit. -/
def Undated (s : List Char) : Prop :=
  ∀ k, (s.take (k + 1)).all isDigit = true → ∀ c ∈ (s.drop (k + 1)).head?, c ≠ '-' ∧ c ≠ ':'

theorem dateTime_undated {s : List Char} (h : Undated s) : dateTime s = none := by
  have hnone {count low high n : Nat} {mark : Char} {t : List Char}
      (hmark : mark = '-' ∨ mark = ':')
      (hread : digitsOfLength (count + 1) low high s = some (n, t)) :
      expect mark t = none := by
    unfold digitsOfLength at hread
    dsimp only at hread
    split at hread
    · rename_i hdigits
      split at hread
      · cases hread
        have hhead := h count hdigits.2
        cases hdrop : s.drop (count + 1) with
        | nil => rfl
        | cons c t =>
          rw [hdrop] at hhead
          obtain ⟨hdash, hcolon⟩ := hhead c rfl
          rw [expect, if_neg]
          rcases hmark with rfl | rfl
          · exact hdash
          · exact hcolon
      · cases hread
    · cases hread
  have hdate : date s = none := by
    unfold date
    cases hyear : digitsOfLength 4 0 9999 s with
    | none => rfl
    | some result =>
      show (expect '-' result.2 >>= _) = none
      rw [hnone (.inl rfl) hyear]
      rfl
  have htime : time s = none := by
    unfold time
    cases hhour : digitsOfLength 2 0 23 s with
    | none => rfl
    | some result =>
      show (expect ':' result.2 >>= _) = none
      rw [hnone (.inr rfl) hhour]
      rfl
  rw [dateTime, hdate]
  exact htime

theorem undated_of_head {c : Char} (hc : isDigit c = false) (s : List Char) : Undated (c :: s) := by
  intro k hk
  rw [List.take_succ_cons, List.all_cons, hc] at hk
  cases hk

theorem undated_pair {c : Char} (hc : isDigit c = false) (hmark : c ≠ '-' ∧ c ≠ ':') (d : Char)
    (s : List Char) : Undated (d :: c :: s) := by
  intro k hk
  cases k with
  | zero => simpa using hmark
  | succ k =>
    rw [List.take_succ_cons, List.take_succ_cons, List.all_cons, List.all_cons, hc] at hk
    simp at hk

/-- Characters that are no marks, and what ends a value. -/
theorem undated_append (hw : ∀ c ∈ w, c ≠ '-' ∧ c ≠ ':') (hrest : Stop rest) :
    Undated (w ++ rest) := by
  induction w with
  | nil =>
    cases rest with
    | nil => simp [Undated]
    | cons c rest =>
      refine undated_of_head ?_ rest
      have hc := hrest c rfl
      simp only [List.mem_cons, List.not_mem_nil, or_false] at hc
      rcases hc with rfl | rfl | rfl | rfl | rfl <;> rfl
  | cons c w ih =>
    obtain ⟨hc, hw⟩ := List.forall_mem_cons.mp hw
    have hhead : ∀ d ∈ (w ++ rest).head?, d ≠ '-' ∧ d ≠ ':' := by
      cases w with
      | nil => exact fun d hd => ⟨hrest.ne (by decide) d hd, hrest.ne (by decide) d hd⟩
      | cons d w => simpa using (List.forall_mem_cons.mp hw).1
    intro k hk
    cases k with
    | zero => exact hhead
    | succ k =>
      rw [List.cons_append, List.take_succ_cons, List.all_cons, Bool.and_eq_true] at hk
      exact ih hw k hk.2

end Dates

/-! ## Numbers -/

section Numbers

variable {w rest : List Char} {n : Nat}

theorem Stop.inert (hrest : Stop rest) {fits : Char → Bool}
    (hfits : ∀ c ∈ [' ', '\t', '#', '\n', '\r'], fits c = false) :
    ∀ c ∈ rest.head?, fits c = false ∧ c ≠ '_' :=
  fun c hc => ⟨hfits c (hrest c hc), hrest.ne (by decide) c hc⟩

theorem Decimal.head (h : Decimal w n) : ∃ c s, w = c :: s ∧ isDigit c = true := by
  cases h with
  | zero => exact ⟨_, _, rfl, by decide⟩
  | positive h _ =>
    obtain ⟨c, s, -, rfl, -, hc⟩ := h.head
    exact ⟨c, s, rfl, hc⟩

theorem Decimal.unmarked (h : Decimal w n) : ∀ c ∈ w, c ≠ '-' ∧ c ≠ ':' := by
  cases h with
  | zero => simp
  | positive h _ =>
    intro c hc
    rcases h.mem c hc with hdigit | rfl
    · constructor <;> rintro rfl <;> exact absurd hdigit (by decide)
    · decide

theorem sign_of_digit {c : Char} (hc : isDigit c = true) (s : List Char) :
    sign (c :: s) = ([], c :: s) := by
  rw [sign]
  · rintro rest ⟨⟩
    cases hc
  · rintro rest ⟨⟩
    cases hc

/-- A number is read as its sign and its digits. -/
theorem whole_written (h : Decimal w n) (hrest : Stop rest) {s mark : List Char}
    (hsign : sign s = (mark, w ++ rest)) :
    ∃ ds, readDigits ds = some n ∧ whole s = some (mark ++ ds, rest) := by
  unfold whole
  rw [hsign]
  cases h with
  | zero => exact ⟨['0'], rfl, rfl⟩
  | @positive w ds h hzero =>
    obtain ⟨c, t, t', rfl, rfl, hc⟩ := h.head
    refine ⟨c :: t', readDigits_iff.mpr ⟨by simp, h.all, rfl⟩, ?_⟩
    have hdigits := digits_written rfl (fun _ h => h) h (hrest.inert (List.all_iff_forall_prop.mp rfl))
    dsimp only
    split
    · rename_i heq
      cases heq
      exact absurd rfl hzero
    · rw [hdigits]
      rfl

/-- Without a point or an exponent, a number in decimal is none with a point. -/
theorem float_none {s t : List Char} (h : whole s = some (t, rest))
    (hrest : ∀ c ∈ rest.head?, c ∉ ['.', 'e', 'E'])
    (hname : ∃ c t, (sign s).2 = c :: t ∧ isDigit c = true) : float s = none := by
  have hexponent : exponent rest = none := by
    cases rest with
    | nil => rfl
    | cons c rest =>
      have hc := hrest c rfl
      simp only [List.mem_cons, List.not_mem_nil, or_false, not_or] at hc
      rw [exponent, if_neg (by simp [hc])]
  have hpoint : pointAndExponent rest = none := by
    unfold pointAndExponent
    split
    · exact absurd (by simp) (hrest '.' rfl)
    · rfl
  have hspecial : specialFloat s = none := by
    obtain ⟨c, t, hs, hc⟩ := hname
    unfold specialFloat
    split
    rename_i mark u hsign
    rw [hsign] at hs
    obtain rfl : u = c :: t := hs
    dsimp only
    split
    · rename_i heq
      cases heq
      exact absurd hc (by decide)
    · rename_i heq
      cases heq
      exact absurd hc (by decide)
    · rfl
  rw [float, h, hspecial]
  show ((exponent rest <|> pointAndExponent rest) >>= _ <|> none) = none
  rw [hexponent, hpoint]
  rfl

theorem integer_default {s : List Char}
    (h : ∀ letter t, s = '0' :: letter :: t → letter ∉ ['x', 'o', 'b']) :
    integer s = whole s >>= fun (text, rest) => readSigned text >>= fun n => some (n, rest) := by
  rw [integer]
  all_goals
    rintro rest rfl
    exact h _ _ rfl (by decide)

theorem readSigned_of_readInteger {s : List Char} {n : Int} (h : readInteger s = some n)
    (hlow : -(twoTo 63 : Int) ≤ n) (hhigh : n < twoTo 63) : readSigned s = some n := by
  simp [readSigned, h, Option.filter, hlow, hhigh]

/-- A digit of another base is read as one, with its value. -/
theorem InBase.value {base : Nat} {c : Char} (hbase : base ∈ [16, 8, 2]) (h : InBase base c) :
    inBase base c = true ∧
      (if isDigit c then digitValue c else if 'a' ≤ c then c.toNat - 87 else c.toNat - 55) =
        (ConnectionString.hexValue c).getD 0 := by
  obtain ⟨d, hd, hvalue⟩ := h
  rw [hvalue, Option.getD_some]
  have hletter (hlow : 10 ≤ d) : base = 16 := by
    simp only [List.mem_cons, List.not_mem_nil, or_false] at hbase
    omega
  unfold ConnectionString.hexValue at hvalue
  split at hvalue
  · rename_i hc
    have hlow : 48 ≤ c.toNat := hc.1
    have hdigit : isDigit c = true := isDigit_iff.mpr hc
    cases hvalue
    refine ⟨?_, by rw [if_pos hdigit, digitValue]⟩
    rw [inBase]
    split
    · simp [hdigit]
    · rw [hdigit, Bool.true_and, digitValue]
      exact decide_eq_true hd
  rename_i hdigit
  have hdigit : isDigit c = false := by
    rw [← Bool.not_eq_true, isDigit_iff]
    exact hdigit
  split at hvalue
  · rename_i hc
    have hlow : 97 ≤ c.toNat := hc.1
    cases hvalue
    refine ⟨?_, by rw [hdigit, if_neg (by decide), if_pos hc.1]⟩
    rw [inBase, if_pos (hletter (by omega))]
    simp [hc]
  split at hvalue
  · rename_i hc
    have hlow : 65 ≤ c.toNat := hc.1
    have hhigh : c.toNat ≤ 70 := hc.2
    have hcapital : ¬ 'a' ≤ c := fun h => by
      have : 97 ≤ c.toNat := h
      omega
    cases hvalue
    refine ⟨?_, by rw [hdigit, if_neg (by decide), if_neg hcapital]⟩
    rw [inBase, if_pos (hletter (by omega))]
    simp [hc]
  · cases hvalue

theorem based_written {letter : Char} {base : Nat} {ds : List Char} (hbase : (letter, base) ∈ bases)
    (h : Digits (InBase base) w ds)
    (hn : ds.foldl (fun n c => base * n + (ConnectionString.hexValue c).getD 0) 0 = n)
    (hfits : n < twoTo 63) (hrest : Stop rest) :
    based base (w ++ rest) = some ((n : Int), rest) := by
  have hmem : base ∈ [16, 8, 2] := by
    simp only [bases, List.mem_cons, Prod.mk.injEq, List.not_mem_nil, or_false] at hbase ⊢
    exact hbase.imp And.right (Or.imp And.right And.right)
  have hinert : inBase base '_' = false ∧
      ∀ c ∈ [' ', '\t', '#', '\n', '\r'], inBase base c = false := by
    simp only [List.mem_cons, List.not_mem_nil, or_false] at hmem
    rcases hmem with rfl | rfl | rfl <;> exact ⟨rfl, List.all_iff_forall_prop.mp rfl⟩
  have hvalue : valueInBase base ds = n := by
    rw [← hn, valueInBase]
    exact List.foldl_ext _ _ _ fun n c hc => by rw [((h.all c hc).value hmem).2]
  rw [based, digits_written hinert.1 (fun c hc => (hc.value hmem).1) h (hrest.inert hinert.2)]
  show (if valueInBase base ds < twoTo 63 then
    some ((valueInBase base ds : Int), rest) else none) = _
  rw [hvalue, if_pos hfits]

section Decimals

variable {s : List Char} {m : Int}

theorem number_decimal (mark : List Char) (h : Decimal w n) (hrest : Stop rest)
    (hsign : sign s = (mark, w ++ rest)) (hdate : Undated s)
    (hbase : ∀ letter t, s = '0' :: letter :: t → letter ∉ ['x', 'o', 'b'])
    (hread : ∀ ds, readDigits ds = some n → readInteger (mark ++ ds) = some m)
    (hlow : -(twoTo 63 : Int) ≤ m) (hhigh : m < twoTo 63) : number s = some (.integer m, rest) := by
  obtain ⟨ds, hds, hwhole⟩ := whole_written h hrest hsign
  have hfloat : float s = none := by
    refine float_none hwhole (fun c hc => ?_) ?_
    · have hc := hrest c hc
      simp only [List.mem_cons, List.not_mem_nil, or_false] at hc
      rcases hc with rfl | rfl | rfl | rfl | rfl <;> decide
    · obtain ⟨c, t, rfl, hc⟩ := h.head
      exact ⟨c, t ++ rest, by rw [hsign]; rfl, hc⟩
  have hinteger : integer s = some (m, rest) := by
    rw [integer_default hbase, hwhole]
    show (readSigned (mark ++ ds) >>= _) = _
    rw [readSigned_of_readInteger (hread ds hds) hlow hhigh]
    rfl
  rw [number, dateTime_undated hdate, hfloat, hinteger]
  rfl

/-- A zero in front of digits is the letter of a base, or stands alone. -/
theorem Decimal.unbased (h : Decimal w n) (hrest : Stop rest) (letter : Char) (t : List Char)
    (hw : w ++ rest = '0' :: letter :: t) : letter ∉ ['x', 'o', 'b'] := by
  cases h with
  | zero =>
    cases rest with
    | nil => cases hw
    | cons c rest =>
      cases hw
      have hc := hrest letter rfl
      simp only [List.mem_cons, List.not_mem_nil, or_false] at hc
      rcases hc with rfl | rfl | rfl | rfl | rfl <;> decide
  | positive h hzero =>
    obtain ⟨c, s, -, rfl, -, hc⟩ := h.head
    exact absurd (congrArg some (List.cons.inj hw).1) hzero

end Decimals

theorem letter_inert {letter : Char} {base : Nat} (hbase : (letter, base) ∈ bases) :
    isDigit letter = false ∧ (letter ≠ '-' ∧ letter ≠ ':') ∧ letter ∉ ['.', 'e', 'E'] := by
  simp only [bases, List.mem_cons, Prod.mk.injEq, List.not_mem_nil, or_false] at hbase
  rcases hbase with ⟨rfl, rfl⟩ | ⟨rfl, rfl⟩ | ⟨rfl, rfl⟩ <;> decide

theorem integer_based {letter : Char} {base : Nat} (hbase : (letter, base) ∈ bases)
    (s : List Char) : integer ('0' :: letter :: s) = based base s := by
  simp only [bases, List.mem_cons, Prod.mk.injEq, List.not_mem_nil, or_false] at hbase
  rcases hbase with ⟨rfl, rfl⟩ | ⟨rfl, rfl⟩ | ⟨rfl, rfl⟩ <;> rfl

/-- A number is read as such and up to what ends it, if 64 bits hold it. -/
theorem number_written {w : List Char} {n : Int} (h : Integer w n) (hlow : -(twoTo 63 : Int) ≤ n)
    (hhigh : n < twoTo 63) (hrest : Stop rest) :
    number (w ++ rest) = some (.integer n, rest) := by
  cases h with
  | @bare w n h =>
    obtain ⟨c, t, hw, hc⟩ := h.head
    refine number_decimal [] h hrest ?_ (undated_append h.unmarked hrest) (h.unbased hrest)
      (fun ds hds => ?_) hlow hhigh
    · rw [hw]
      exact sign_of_digit hc _
    · rw [List.nil_append, readInteger_of_natural fun rest => readDigits_head hds (by decide) rest,
        readNatural_of_digits hds]
      rfl
  | plus h =>
    refine number_decimal ['+'] h hrest rfl (undated_of_head (by decide) _)
      (fun _ _ h => by cases h) (fun ds hds => ?_) hlow hhigh
    show (readDigits ds).map Int.ofNat = _
    rw [hds]
    rfl
  | minus h =>
    refine number_decimal ['-'] h hrest rfl (undated_of_head (by decide) _)
      (fun _ _ h => by cases h) (fun ds hds => ?_) hlow hhigh
    show readInteger ('-' :: ds) = _
    rw [readInteger_minus, hds]
    rfl
  | @based letter base n w ds hbase h hn =>
    have hread := based_written hbase h hn (by exact_mod_cast hhigh) hrest
    obtain ⟨hdigit, hmark, hinert⟩ := letter_inert hbase
    have hfloat : float ('0' :: letter :: (w ++ rest)) = none :=
      float_none (t := ['0']) rfl (by simpa using hinert) ⟨'0', _, rfl, rfl⟩
    show number ('0' :: letter :: (w ++ rest)) = _
    rw [number, dateTime_undated (undated_pair hdigit hmark '0' _), hfloat,
      integer_based hbase, hread]
    rfl

end Numbers

/-! ## Values -/

section Values

variable {w rest : List Char} {v : Plain}

theorem Integer.head {n : Int} (h : Integer w n) :
    ∃ c s, w = c :: s ∧ (isDigit c = true ∨ c = '+' ∨ c = '-') := by
  cases h with
  | bare h =>
    obtain ⟨c, s, hw, hc⟩ := h.head
    exact ⟨c, s, hw, .inl hc⟩
  | plus h => exact ⟨_, _, rfl, .inr (.inl rfl)⟩
  | minus h => exact ⟨_, _, rfl, .inr (.inr rfl)⟩
  | based hbase h hn => exact ⟨_, _, rfl, .inl rfl⟩

theorem value_number {c : Char} {s : List Char} (hc : isDigit c = true ∨ c = '+' ∨ c = '-')
    (fuel depth : Nat) : value (fuel + 1) depth (c :: s) = number (c :: s) := by
  have hne {d : Char} (hd : isDigit d = false ∧ d ≠ '+' ∧ d ≠ '-') : c ≠ d := by
    rintro rfl
    rcases hc with hc | rfl | rfl
    · exact absurd hc (by rw [hd.1]; decide)
    · exact hd.2.1 rfl
    · exact hd.2.2 rfl
  rw [value.eq_def]
  dsimp only
  split
  case h_7 => rfl
  all_goals
    rename_i heq
    exact absurd (List.cons.inj heq).1 (hne (by decide))

/-- A value is read as its setting, up to what ends it. -/
theorem value_written (h : Value w v) (hrest : Stop rest) (fuel depth : Nat) :
    value (fuel + 1) depth (w ++ rest) = some (v.setting, rest) := by
  cases h with
  | @text w text h =>
    have hread := string_written h hrest
    have hstring {c : Char} {s : List Char} (hs : w ++ rest = c :: s) (hc : c = '"' ∨ c = '\x27') :
        value (fuel + 1) depth (w ++ rest) =
          some (Plain.setting (.text (String.ofList text)), rest) := by
      rw [hs] at hread ⊢
      rw [value.eq_def]
      rcases hc with rfl | rfl
      · show (string _).map _ = _
        rw [hread]
        rfl
      · show (string _).map _ = _
        rw [hread]
        rfl
    cases h with
    | line h =>
      cases h with
      | basic h => exact hstring rfl (.inl rfl)
      | literal h => exact hstring rfl (.inr rfl)
    | basicLines hfirst h => exact hstring rfl (.inl rfl)
    | literalLines hfirst h => exact hstring rfl (.inr rfl)
  | true =>
    rw [value.eq_def]
    rfl
  | false =>
    rw [value.eq_def]
    rfl
  | @integer w n h =>
    obtain ⟨c, s, rfl, hc⟩ := h.head
    rw [List.cons_append, value_number hc, ← List.cons_append]
    have hlow : -(twoTo 63 : Int) ≤ n.toInt := n.le_toInt
    have hhigh : n.toInt < twoTo 63 := n.toInt_lt
    exact number_written h hlow hhigh hrest

/-- A value does not begin with a blank. -/
theorem head_value (h : Value w v) (s : List Char) :
    ∀ c ∈ (w ++ s).head?, isBlank c = false := by
  have hcons {c : Char} {t : List Char} (hw : w = c :: t) (hc : isBlank c = false) :
      ∀ c ∈ (w ++ s).head?, isBlank c = false := by
    rw [hw]
    simpa using hc
  cases h with
  | text h =>
    cases h with
    | line h =>
      cases h with
      | basic h => exact hcons rfl rfl
      | literal h => exact hcons rfl rfl
    | basicLines hfirst h => exact hcons rfl rfl
    | literalLines hfirst h => exact hcons rfl rfl
  | true => exact hcons rfl rfl
  | false => exact hcons rfl rfl
  | integer h =>
    obtain ⟨c, t, hw, hc⟩ := h.head
    refine hcons hw ?_
    rcases hc with hc | rfl | rfl
    · obtain ⟨hlow, hhigh⟩ := isDigit_iff.mp hc
      simp only [isBlank, Bool.or_eq_false_iff, decide_eq_false_iff_not]
      constructor <;> rintro rfl <;> exact absurd hlow (by decide)
    · rfl
    · rfl

end Values

/-! ## Every value can be written -/

theorem digits_self {P : Char → Prop} {ds : List Char} (hne : ds ≠ []) (h : ∀ c ∈ ds, P c) :
    Digits P ds ds := by
  induction ds with
  | nil => exact absurd rfl hne
  | cons c ds ih =>
    obtain ⟨hc, h⟩ := List.forall_mem_cons.mp h
    cases ds with
    | nil => exact .one hc
    | cons d ds => exact .more hc (ih (by simp) h)

theorem decimal_repr (n : Nat) : Decimal n.repr.toList n := by
  rcases Nat.eq_zero_or_pos n with rfl | hn
  · exact .zero
  obtain ⟨hne, hall, hvalue⟩ := readDigits_iff.mp (readDigits_repr n)
  obtain ⟨c, ds, hds, hc⟩ := repr_head hn
  have h := Decimal.positive (digits_self hne hall) (by rw [hds]; simpa using hc)
  rwa [hvalue] at h

theorem exists_value (v : Plain) : ∃ w, Value w v := by
  cases v with
  | text s =>
    obtain ⟨w, hw⟩ := exists_inline s.toList
    have h := Value.text (.line hw)
    rw [String.ofList_toList] at h
    exact ⟨w, h⟩
  | bool b => cases b with
    | true => exact ⟨_, .true⟩
    | false => exact ⟨_, .false⟩
  | integer n =>
    rcases toList_toString n.toInt with ⟨m, hm, -⟩ | ⟨m, -, hm, -⟩
    · exact ⟨_, .integer (by rw [hm]; exact .bare (decimal_repr m))⟩
    · exact ⟨_, .integer (by rw [hm]; exact .minus (decimal_repr m))⟩

end SqlGuard.Profile.Toml
