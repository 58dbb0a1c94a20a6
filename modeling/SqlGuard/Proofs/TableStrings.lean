import SqlGuard.Profile.Toml.Text
import SqlGuard.Proofs.Spellings

/-!
# Strings in the lines of a table

A string stands on one line or on several, between double quotes or single ones.
`Quoted` says which texts are a string, and of what. What stands behind a value on
its line ends it (`Stop`).

* `Multiline`: what the two kinds of strings of several lines have in common, piece by piece.
* `string_written`: a string is read as its text, up to what ends it.
* `exists_inline`: every text can be written on one line.
-/
namespace SqlGuard.Profile.Toml

/-! ## Strings as they are written -/

/-- Blanks in a line. -/
def Blanks (w : List Char) : Prop := ∀ c ∈ w, c = ' ' ∨ c = '\t'

inductive Break : List Char → Prop
  | feed : Break ['\n']
  | carriage : Break ['\r', '\n']

/-- Stands for itself between double quotes. -/
def Verbatim (c : Char) : Prop :=
  c = '\t' ∨ (0x20 ≤ c.toNat ∧ c.toNat ≠ 0x7F ∧ c ≠ '"' ∧ c ≠ '\\')

instance : DecidablePred Verbatim := fun _ => inferInstanceAs (Decidable (_ ∨ _))

/-- Stands for itself between single quotes, where nothing else can stand. -/
def Literal (c : Char) : Prop := c = '\t' ∨ (0x20 ≤ c.toNat ∧ c.toNat ≠ 0x7F ∧ c ≠ '\x27')

instance : DecidablePred Literal := fun _ => inferInstanceAs (Decidable (_ ∨ _))

/-- What a single character behind a backslash stands for. -/
def marks : List (Char × Char) :=
  [('"', '"'), ('\\', '\\'), ('b', '\x08'), ('f', '\x0c'), ('n', '\n'), ('r', '\r'), ('t', '\t')]

/-- What stands behind a backslash, and the character it stands for. -/
inductive Escape : List Char → Char → Prop
  | mark {e c : Char} (h : (e, c) ∈ marks) : Escape [e] c
  | short {digits : List Char} {c : Char} (hlength : digits.length = 4) (h : Hex digits c.toNat) :
    Escape ('u' :: digits) c
  | long {digits : List Char} {c : Char} (hlength : digits.length = 8) (h : Hex digits c.toNat) :
    Escape ('U' :: digits) c

/-- Blanks and line breaks. -/
inductive Gap : List Char → Prop
  | nil : Gap []
  | blank {c : Char} {w : List Char} (hc : c = ' ' ∨ c = '\t') (h : Gap w) : Gap (c :: w)
  | newline {b w : List Char} (hb : Break b) (h : Gap w) : Gap (b ++ w)

/-- Up to two quotes in front of the three that close a string. -/
def closing (quote : Char) (n : Nat) : List Char := List.replicate (n + 3) quote

/-- What may stand in a string of several lines between double quotes, up to its end. A backslash at
the end of a line joins the lines, without the blanks and line breaks between them. -/
inductive BasicLines : List Char → List Char → Prop
  | close {n : Nat} (hn : n ≤ 2) : BasicLines (closing '"' n) (List.replicate n '"')
  | verbatim {c : Char} {w text : List Char} (hc : Verbatim c) (h : BasicLines w text) :
    BasicLines (c :: w) (c :: text)
  | quote {w text : List Char} (hw : ¬['"', '"'] <+: w) (h : BasicLines w text) :
    BasicLines ('"' :: w) ('"' :: text)
  | escape {e w text : List Char} {c : Char} (he : Escape e c) (h : BasicLines w text) :
    BasicLines ('\\' :: (e ++ w)) (c :: text)
  | newline {b w text : List Char} (hb : Break b) (h : BasicLines w text) :
    BasicLines (b ++ w) ('\n' :: text)
  | join {b br gap w text : List Char} {c : Char} (hb : Blanks b) (hbr : Break br) (hgap : Gap gap)
    (hc : c ∉ [' ', '\t', '\n', '\r']) (h : BasicLines (c :: w) text) :
    BasicLines ('\\' :: (b ++ (br ++ (gap ++ c :: w)))) text

/-- What may stand in a string of several lines between single quotes, up to its end. -/
inductive LiteralLines : List Char → List Char → Prop
  | close {n : Nat} (hn : n ≤ 2) : LiteralLines (closing '\x27' n) (List.replicate n '\x27')
  | literal {c : Char} {w text : List Char} (hc : Literal c) (h : LiteralLines w text) :
    LiteralLines (c :: w) (c :: text)
  | quote {w text : List Char} (hw : ¬['\x27', '\x27'] <+: w) (h : LiteralLines w text) :
    LiteralLines ('\x27' :: w) ('\x27' :: text)
  | newline {b w text : List Char} (hb : Break b) (h : LiteralLines w text) :
    LiteralLines (b ++ w) ('\n' :: text)

/-- A string on one line. -/
inductive Inline : List Char → List Char → Prop
  | basic {w text : List Char} (h : Written Verbatim Escape w text) :
    Inline ('"' :: (w ++ ['"'])) text
  | literal {text : List Char} (h : ∀ c ∈ text, Literal c) :
    Inline ('\x27' :: (text ++ ['\x27'])) text

/-- A string. A line break right behind the opening quotes does not count. -/
inductive Quoted : List Char → List Char → Prop
  | line {w text : List Char} (h : Inline w text) : Quoted w text
  | basicLines {w text first : List Char} (hfirst : first = [] ∧ newline w = none ∨ Break first)
    (h : BasicLines w text) : Quoted ('"' :: '"' :: '"' :: (first ++ w)) text
  | literalLines {w text first : List Char} (hfirst : first = [] ∧ newline w = none ∨ Break first)
    (h : LiteralLines w text) : Quoted ('\x27' :: '\x27' :: '\x27' :: (first ++ w)) text

/-! ## What ends a value -/

/-- A blank, a comment, a line break or the end of the document. -/
def Stop (rest : List Char) : Prop := ∀ c ∈ rest.head?, c ∈ [' ', '\t', '#', '\n', '\r']

/-! ## Blanks and line breaks -/

section Blanks

variable {b w rest : List Char}

theorem isBlank_of_mem (hb : Blanks b) : ∀ c ∈ b, isBlank c = true := by
  intro c hc
  rcases hb c hc with rfl | rfl <;> rfl

theorem skipBlanks_append (hb : Blanks b) (s : List Char) : skipBlanks (b ++ s) = skipBlanks s :=
  List.dropWhile_append_of_pos (isBlank_of_mem hb)

theorem skipBlanks_of_head {s : List Char} (h : ∀ c ∈ s.head?, isBlank c = false) :
    skipBlanks s = s := by
  cases s with
  | nil => rfl
  | cons c s => exact List.dropWhile_cons_of_neg (by rw [h c rfl]; decide)

theorem newline_break (hb : Break b) (rest : List Char) : newline (b ++ rest) = some rest := by
  cases hb <;> rfl

theorem newline_of_head {s : List Char} (h : ∀ c ∈ s.head?, c ≠ '\n' ∧ c ≠ '\r') :
    newline s = none := by
  cases s with
  | nil => rfl
  | cons c s =>
    obtain ⟨hn, hr⟩ := h c rfl
    unfold newline
    split
    · exact absurd ‹_› (by simp [hn])
    · exact absurd ‹_› (by simp [hr])
    · rfl

theorem Break.isBlank_head (hb : Break b) (s : List Char) :
    ∀ c ∈ (b ++ s).head?, isBlank c = false := by
  cases hb <;> simp [isBlank]

end Blanks

/-! ## Reading strings -/

section Strings

variable {w text rest : List Char} {fuel : Nat}

theorem inBasic_of_verbatim {c : Char} (hc : Verbatim c) : inBasic c = true := by
  simpa [inBasic, Verbatim, and_assoc] using hc

theorem inLiteral_of_literal {c : Char} (hc : Literal c) : inLiteral c = true := by
  simpa [inLiteral, Literal, and_assoc] using hc

theorem Verbatim.ne {c : Char} (hc : Verbatim c) : c ≠ '"' ∧ c ≠ '\\' ∧ c ≠ '\n' ∧ c ≠ '\r' := by
  rcases hc with rfl | ⟨hlow, -, hquote, hbackslash⟩
  · decide
  · refine ⟨hquote, hbackslash, ?_, ?_⟩ <;> rintro rfl <;> exact absurd hlow (by decide)

theorem Literal.ne {c : Char} (hc : Literal c) : c ≠ '\x27' ∧ c ≠ '\n' ∧ c ≠ '\r' := by
  rcases hc with rfl | ⟨hlow, -, hquote⟩
  · decide
  · refine ⟨hquote, ?_, ?_⟩ <;> rintro rfl <;> exact absurd hlow (by decide)

theorem hexChar_of_hex {digits : List Char} {c : Char} (h : Hex digits c.toNat) :
    hexChar digits = some c := by
  obtain ⟨values, hvalues, hfold⟩ := h
  have hmap : digits.mapM ConnectionString.hexValue = some values := by
    clear hfold
    induction digits generalizing values with
    | nil => cases values <;> simp_all
    | cons d digits ih =>
      cases values with
      | nil => cases hvalues
      | cons v values =>
        obtain ⟨hv, hvalues⟩ := List.cons.inj hvalues
        rw [List.mapM_cons, hv, ih values hvalues]
        rfl
  have hvalid : c.toNat.isValidChar := c.valid
  simp only [hexChar, hmap, hfold, Option.bind_eq_bind, Option.bind_some, if_pos hvalid,
    Char.ofNat_toNat]

theorem escape_written {e : List Char} {c : Char} (h : Escape e c) (rest : List Char) :
    escape (e ++ rest) = some (c, rest) := by
  cases h with
  | mark h =>
    simp only [marks, List.mem_cons, Prod.mk.injEq, List.not_mem_nil, or_false] at h
    rcases h with ⟨rfl, rfl⟩ | ⟨rfl, rfl⟩ | ⟨rfl, rfl⟩ | ⟨rfl, rfl⟩ | ⟨rfl, rfl⟩ | ⟨rfl, rfl⟩ |
      ⟨rfl, rfl⟩ <;> rfl
  | @short digits c hlength h =>
    match digits, hlength with
    | [_, _, _, _], _ =>
      show (hexChar _).map _ = _
      rw [hexChar_of_hex h]
      rfl
  | @long digits c hlength h =>
    match digits, hlength with
    | [_, _, _, _, _, _, _, _], _ =>
      show (hexChar _).map _ = _
      rw [hexChar_of_hex h]
      rfl

theorem basic_verbatim {c : Char} (hc : Verbatim c) (s : List Char) :
    basic (fuel + 1) (c :: s) = (basic fuel s).map fun (text, rest) => (c :: text, rest) := by
  obtain ⟨hquote, hbackslash, -, -⟩ := hc.ne
  rw [basic, if_pos (inBasic_of_verbatim hc)]
  · exact hquote
  · exact hbackslash

theorem basic_written (h : Written Verbatim Escape w text) (hfuel : w.length < fuel)
    (rest : List Char) : basic fuel (w ++ '"' :: rest) = some (text, rest) := by
  induction h generalizing fuel with
  | nil =>
    obtain ⟨fuel, rfl⟩ := Nat.exists_eq_succ_of_ne_zero (Nat.ne_zero_of_lt hfuel)
    rfl
  | @plain c w text hc h ih =>
    obtain ⟨fuel, rfl⟩ := Nat.exists_eq_succ_of_ne_zero (Nat.ne_zero_of_lt hfuel)
    rw [List.cons_append, basic_verbatim hc, ih (Nat.lt_of_succ_lt_succ hfuel)]
    rfl
  | @escape e c w text he h ih =>
    obtain ⟨fuel, rfl⟩ := Nat.exists_eq_succ_of_ne_zero (Nat.ne_zero_of_lt hfuel)
    rw [List.length_cons, List.length_append] at hfuel
    rw [List.cons_append, List.append_assoc]
    show (escape (e ++ (w ++ '"' :: rest)) >>= fun result => basic fuel result.2 >>= _) = _
    rw [escape_written he]
    show (basic fuel (w ++ '"' :: rest) >>= _) = _
    rw [ih (by omega)]
    rfl

theorem literal_written (h : ∀ c ∈ text, Literal c) (rest : List Char) :
    literal (text ++ '\x27' :: rest) = some (text, rest) := by
  induction text with
  | nil => rfl
  | cons c text ih =>
    obtain ⟨hc, h⟩ := List.forall_mem_cons.mp h
    rw [List.cons_append, literal, if_neg hc.ne.1, if_pos (inLiteral_of_literal hc), ih h]
    rfl

theorem length_closing (quote : Char) (n : Nat) : (closing quote n).length = n + 3 :=
  List.length_replicate

/-- A single quote is not the first of three, whatever stands behind the string. -/
theorem not_closing {q : Char} (hw : ¬[q, q] <+: w) (hlength : 3 ≤ w.length) (rest : List Char) :
    ¬[q, q, q] <+: q :: (w ++ rest) := by
  intro h
  rw [List.cons_prefix_cons] at h
  exact hw (List.prefix_of_prefix_length_le h.2 (List.prefix_append w rest)
    (by simp only [List.length_cons, List.length_nil]; omega))

theorem not_closing_of_ne {q c : Char} (hc : c ≠ q) (s : List Char) : ¬[q, q, q] <+: c :: s := by
  rw [List.cons_prefix_cons]
  exact fun h => hc h.1.symm

theorem stringEnd_closing {q : Char} {n : Nat} (hn : n ≤ 2) (hrest : ∀ c ∈ rest.head?, c ≠ q) :
    stringEnd q (closing q n ++ rest) = some (List.replicate n q, rest) := by
  have htake : (closing q n ++ rest).take 5 = closing q n ++ rest.take (2 - n) := by
    rw [List.take_append, length_closing, List.take_of_length_le (by rw [length_closing]; omega),
      show 5 - (n + 3) = 2 - n by omega]
  have hmore : (rest.take (2 - n)).takeWhile (· = q) = [] := by
    cases rest with
    | nil => simp
    | cons c rest =>
      have hc : c ≠ q := hrest c rfl
      cases 2 - n with
      | zero => simp
      | succ k => simp [hc]
  have hquotes : (((closing q n ++ rest).take 5).takeWhile (· = q)).length = n + 3 := by
    rw [htake, List.takeWhile_append_of_pos (by simp [closing]), hmore, List.append_nil,
      length_closing]
  rw [stringEnd, hquotes, List.drop_left' (length_closing q n)]
  simp

theorem stringEnd_of_not_closing {q : Char} {s : List Char} (h : ¬[q, q, q] <+: s) :
    stringEnd q s = none := by
  let quotes := (s.take 5).takeWhile (· = q)
  have hs : quotes <+: s := (List.takeWhile_prefix _).trans (List.take_prefix 5 s)
  have hquotes : quotes = List.replicate quotes.length q := List.eq_replicate_iff.mpr
    ⟨rfl, fun c hc => by simpa using List.all_eq_true.mp List.all_takeWhile c hc⟩
  have hlength : quotes.length < 3 := by
    refine Nat.lt_of_not_le fun hle => h (List.IsPrefix.trans ?_ hs)
    rw [hquotes]
    exact List.prefix_replicate_iff.mpr ⟨hle, rfl⟩
  exact if_pos hlength

theorem newline_cons {c : Char} (hn : c ≠ '\n') (hr : c ≠ '\r') (s : List Char) :
    newline (c :: s) = none :=
  newline_of_head (by simpa using ⟨hn, hr⟩)

theorem skip_gap {gap : List Char} (h : Gap gap) {t : List Char}
    (ht : ∀ c ∈ t.head?, c ∉ [' ', '\t', '\n', '\r']) (hfuel : gap.length < fuel) :
    foldedBreak.skip fuel (gap ++ t) = t := by
  have hblank : ∀ c ∈ t.head?, isBlank c = false := fun c hc => by
    have := ht c hc
    simp only [List.mem_cons, List.not_mem_nil, or_false, not_or] at this
    simp [isBlank, this.1, this.2.1]
  have hnewline : newline t = none := newline_of_head fun c hc => by
    have := ht c hc
    simp only [List.mem_cons, List.not_mem_nil, or_false, not_or] at this
    exact ⟨this.2.2.1, this.2.2.2⟩
  induction h generalizing fuel with
  | nil =>
    obtain ⟨fuel, rfl⟩ := Nat.exists_eq_succ_of_ne_zero (Nat.ne_zero_of_lt hfuel)
    rw [List.nil_append, foldedBreak.skip, skipBlanks_of_head hblank, hnewline]
  | @blank c w hc h ih =>
    obtain ⟨fuel, rfl⟩ := Nat.exists_eq_succ_of_ne_zero (Nat.ne_zero_of_lt hfuel)
    have hskip : skipBlanks (c :: (w ++ t)) = skipBlanks (w ++ t) :=
      skipBlanks_append (b := [c]) (by simpa [Blanks] using hc) (w ++ t)
    have hrest := @ih (fuel + 1) (Nat.lt_of_succ_lt hfuel)
    rw [foldedBreak.skip] at hrest
    rwa [List.cons_append, foldedBreak.skip, hskip]
  | @newline b w hb h ih =>
    obtain ⟨fuel, rfl⟩ := Nat.exists_eq_succ_of_ne_zero (Nat.ne_zero_of_lt hfuel)
    rw [List.append_assoc, foldedBreak.skip, skipBlanks_of_head (hb.isBlank_head _),
      newline_break hb]
    refine ih ?_
    have : 0 < b.length := by cases hb <;> decide
    rw [List.length_append] at hfuel
    omega

theorem foldedBreak_escape {e : List Char} {c : Char} (h : Escape e c) (rest : List Char) :
    foldedBreak (e ++ rest) = none := by
  have hhead {d : Char} {s : List Char} (hd : d ∉ [' ', '\t', '\n', '\r']) :
      foldedBreak (d :: s) = none := by
    simp only [List.mem_cons, List.not_mem_nil, or_false, not_or] at hd
    have hblank : skipBlanks (d :: s) = d :: s :=
      skipBlanks_of_head (by simp [isBlank, hd.1, hd.2.1])
    rw [foldedBreak, hblank, newline_cons hd.2.2.1 hd.2.2.2]
    rfl
  cases h with
  | mark h =>
    simp only [marks, List.mem_cons, Prod.mk.injEq, List.not_mem_nil, or_false] at h
    rcases h with ⟨rfl, rfl⟩ | ⟨rfl, rfl⟩ | ⟨rfl, rfl⟩ | ⟨rfl, rfl⟩ | ⟨rfl, rfl⟩ | ⟨rfl, rfl⟩ |
      ⟨rfl, rfl⟩ <;> exact hhead (by decide)
  | short => exact hhead (by decide)
  | long => exact hhead (by decide)

/-- A string of several lines is read as its text, in front of all that adds no quote to it. -/
structure Multiline (q : Char) (piece : List Char → Option (List Char × List Char))
    (w text : List Char) : Prop where
  three_le : 3 ≤ w.length
  reads : ∀ fuel rest, w.length < fuel → (∀ c ∈ rest.head?, c ≠ q) →
    multiline q piece fuel (w ++ rest) = some (text, rest)

section Multiline

variable {q : Char} {piece : List Char → Option (List Char × List Char)}

theorem Multiline.close {n : Nat} (hn : n ≤ 2) :
    Multiline q piece (closing q n) (List.replicate n q) := by
  refine ⟨by rw [length_closing]; omega, fun fuel rest hfuel hrest => ?_⟩
  cases fuel with
  | zero => simp at hfuel
  | succ fuel => rw [multiline, stringEnd_closing hn hrest]

/-- One more piece in front of the string. -/
theorem Multiline.cons {v : List Char} (chars : List Char) (h : Multiline q piece w text)
    (hlength : w.length < v.length) (hend : ∀ rest, ¬[q, q, q] <+: v ++ rest)
    (hpiece : ∀ rest, piece (v ++ rest) = some (chars, w ++ rest)) :
    Multiline q piece v (chars ++ text) := by
  refine ⟨by have := h.three_le; omega, fun fuel rest hfuel hrest => ?_⟩
  cases fuel with
  | zero => simp at hfuel
  | succ fuel =>
    have htext := h.reads fuel rest (by omega) hrest
    rw [multiline, stringEnd_of_not_closing (hend rest), hpiece rest]
    simp [htext]

end Multiline

/-! ### Pieces -/

section Pieces

variable {itself : Char → Bool}

theorem linePiece_char {c : Char} (hn : c ≠ '\n') (hr : c ≠ '\r') (hc : itself c = true)
    (s : List Char) : linePiece itself (c :: s) = some ([c], s) := by
  unfold linePiece
  rw [newline_cons hn hr]
  exact if_pos hc

theorem linePiece_break {b : List Char} (hb : Break b) (s : List Char) :
    linePiece itself (b ++ s) = some (['\n'], s) := by
  unfold linePiece
  rw [newline_break hb]

theorem basicPiece_of_ne {c : Char} (hc : c ≠ '\\') (s : List Char) :
    basicPiece (c :: s) = linePiece (fun c => inBasic c || c = '"') (c :: s) := by
  unfold basicPiece
  split
  · rename_i heq
    cases heq
    exact absurd rfl hc
  · rfl

theorem basicPiece_escape {e : List Char} {c : Char} (he : Escape e c) (s : List Char) :
    basicPiece ('\\' :: (e ++ s)) = some ([c], s) := by
  rw [basicPiece, foldedBreak_escape he, escape_written he]
  rfl

theorem basicPiece_join {b br gap s : List Char} (hb : Blanks b) (hbr : Break br) (hgap : Gap gap)
    (hs : ∀ c ∈ s.head?, c ∉ [' ', '\t', '\n', '\r']) :
    basicPiece ('\\' :: (b ++ (br ++ (gap ++ s)))) = some ([], s) := by
  have hlength : gap.length < (b ++ (br ++ (gap ++ s))).length := by
    have : 0 < br.length := by cases hbr <;> decide
    simp only [List.length_append]
    omega
  rw [basicPiece, foldedBreak, skipBlanks_append hb, skipBlanks_of_head (hbr.isBlank_head _),
    newline_break hbr, Option.map_some, skip_gap hgap hs hlength]

end Pieces

/-- A line break begins with no quote and no backslash. -/
theorem Break.cases_head {b : List Char} (hb : Break b) :
    ∃ c s, b = c :: s ∧ c ≠ '"' ∧ c ≠ '\x27' ∧ c ≠ '\\' := by
  cases hb <;> exact ⟨_, _, rfl, by decide⟩

theorem BasicLines.multiline (h : BasicLines w text) : Multiline '"' basicPiece w text := by
  -- all but the end puts one piece in front, and only a quote could be taken for the end
  induction h with
  | close hn => exact .close hn
  | @verbatim c w text hc h ih =>
    obtain ⟨hquote, hbackslash, hn, hr⟩ := hc.ne
    refine .cons [c] ih (Nat.lt_succ_self _) (fun rest => not_closing_of_ne hquote _) fun rest => ?_
    rw [List.cons_append, basicPiece_of_ne hbackslash,
      linePiece_char hn hr (by simp [inBasic_of_verbatim hc])]
  | @quote w text hw h ih =>
    refine .cons ['"'] ih (Nat.lt_succ_self _) (not_closing hw ih.three_le) fun rest => ?_
    rw [List.cons_append, basicPiece_of_ne (by decide),
      linePiece_char (by decide) (by decide) (by decide)]
  | @escape e w text c he h ih =>
    refine .cons [c] ih ?_ (fun rest => not_closing_of_ne (by decide) _) fun rest => ?_
    · simp only [List.length_cons, List.length_append]
      omega
    · rw [List.cons_append, List.append_assoc, basicPiece_escape he]
  | @newline b w text hb h ih =>
    obtain ⟨c, s, rfl, hquote, -, hbackslash⟩ := hb.cases_head
    refine .cons ['\n'] ih ?_ (fun rest => not_closing_of_ne hquote _) fun rest => ?_
    · simp only [List.length_append, List.length_cons]
      omega
    · rw [List.append_assoc, List.cons_append, basicPiece_of_ne hbackslash, ← List.cons_append,
        linePiece_break hb]
  | @join b br gap w text c hb hbr hgap hc h ih =>
    refine .cons [] ih ?_ (fun rest => not_closing_of_ne (by decide) _) fun rest => ?_
    · simp only [List.length_cons, List.length_append]
      omega
    · simp only [List.cons_append, List.append_assoc]
      exact basicPiece_join hb hbr hgap (by simpa using hc)

theorem LiteralLines.multiline (h : LiteralLines w text) :
    Multiline '\x27' (linePiece fun c => inLiteral c || c = '\x27') w text := by
  induction h with
  | close hn => exact .close hn
  | @literal c w text hc h ih =>
    obtain ⟨hquote, hn, hr⟩ := hc.ne
    refine .cons [c] ih (Nat.lt_succ_self _) (fun rest => not_closing_of_ne hquote _) fun rest => ?_
    exact linePiece_char hn hr (by simp [inLiteral_of_literal hc]) _
  | @quote w text hw h ih =>
    refine .cons ['\x27'] ih (Nat.lt_succ_self _) (not_closing hw ih.three_le) fun rest => ?_
    exact linePiece_char (by decide) (by decide) (by decide) _
  | @newline b w text hb h ih =>
    obtain ⟨c, s, rfl, -, hquote, -⟩ := hb.cases_head
    refine .cons ['\n'] ih ?_ (fun rest => not_closing_of_ne hquote _) fun rest => ?_
    · simp only [List.length_append, List.length_cons]
      omega
    · rw [List.append_assoc, linePiece_break hb]

theorem Stop.ne {c : Char} (h : Stop rest) (hc : c ∉ [' ', '\t', '#', '\n', '\r']) :
    ∀ d ∈ rest.head?, d ≠ c := by
  rintro d hd rfl
  exact hc (h d hd)

theorem newline_cons_cons (c d : Char) (s : List Char) :
    newline (c :: d :: s) = none ↔ c ≠ '\n' ∧ ¬(c = '\r' ∧ d = '\n') := by
  unfold newline
  split <;> simp_all

theorem skipFirstBreak_append {first : List Char}
    (hfirst : first = [] ∧ newline w = none ∨ Break first) (hw : 3 ≤ w.length) :
    skipFirstBreak (first ++ (w ++ rest)) = w ++ rest := by
  rcases hfirst with ⟨rfl, hnone⟩ | hbreak
  · match w, hw with
    | c :: d :: w, _ =>
      rw [newline_cons_cons, ← newline_cons_cons c d (w ++ rest)] at hnone
      rw [List.nil_append, List.cons_append, List.cons_append, skipFirstBreak, hnone]
      rfl
  · rw [skipFirstBreak, newline_break hbreak]
    rfl

/-- A string of several lines behind its opening quotes, with all that `string` may read. -/
theorem Multiline.opened {q : Char} {piece : List Char → Option (List Char × List Char)}
    {first : List Char} (h : Multiline q piece w text)
    (hfirst : first = [] ∧ newline w = none ∨ Break first) (hrest : ∀ c ∈ rest.head?, c ≠ q) :
    multiline q piece ((first ++ w ++ rest).length + 4) (skipFirstBreak (first ++ w ++ rest)) =
      some (text, rest) := by
  have hfuel : w.length < (first ++ w ++ rest).length + 4 := by
    simp only [List.length_append]
    omega
  rw [List.append_assoc, skipFirstBreak_append hfirst h.three_le, ← List.append_assoc]
  exact h.reads _ rest hfuel hrest

theorem string_basic {t : List Char} (h : ¬['"', '"'] <+: t) :
    string ('"' :: t) =
      (basic (t.length + 2) t).map fun (text, rest) => (String.ofList text, rest) := by
  unfold string
  dsimp only
  split
  · rename_i heq
    cases heq
    exact absurd ⟨_, rfl⟩ h
  · rename_i heq
    cases heq
    rfl
  · rename_i heq
    cases heq
  · rename_i heq
    cases heq
  · rename_i hquote _ _
    exact absurd rfl (hquote t)

theorem string_literal {t : List Char} (h : ¬['\x27', '\x27'] <+: t) :
    string ('\x27' :: t) = (literal t).map fun (text, rest) => (String.ofList text, rest) := by
  unfold string
  dsimp only
  split
  · rename_i heq
    cases heq
  · rename_i heq
    cases heq
  · rename_i heq
    cases heq
    exact absurd ⟨_, rfl⟩ h
  · rename_i heq
    cases heq
    rfl
  · rename_i hquote
    exact absurd rfl (hquote t)

/-- What is written between quotes, and what ends it, begins with no two quotes. -/
theorem not_two {q : Char} (hw : ∀ c ∈ w.head?, c ≠ q) (hrest : ∀ c ∈ rest.head?, c ≠ q) :
    ¬[q, q] <+: w ++ q :: rest := by
  cases w with
  | nil =>
    cases rest with
    | nil => simp
    | cons c rest =>
      intro h
      rw [List.nil_append, List.cons_prefix_cons, List.cons_prefix_cons] at h
      exact hrest c rfl h.2.1.symm
  | cons c w =>
    rw [List.cons_append, List.cons_prefix_cons]
    exact fun h => hw c rfl h.1.symm

/-- A string is read as its text, up to what ends it. -/
theorem string_written (h : Quoted w text) (hrest : Stop rest) :
    string (w ++ rest) = some (String.ofList text, rest) := by
  cases h with
  | line h =>
    cases h with
    | @basic w text h =>
      have hhead : ∀ c ∈ w.head?, c ≠ '"' := by
        cases h with
        | nil => simp
        | plain hc h => simpa using hc.ne.1
        | escape he h => simp
      have hw : '"' :: (w ++ ['"']) ++ rest = '"' :: (w ++ '"' :: rest) := by simp
      rw [hw, string_basic (not_two hhead (hrest.ne (by decide))),
        basic_written h (by simp only [List.length_append]; omega)]
      rfl
    | literal h =>
      have hhead : ∀ c ∈ text.head?, c ≠ '\x27' := fun c hc => (h c (List.mem_of_head? hc)).ne.1
      have hw : '\x27' :: (text ++ ['\x27']) ++ rest = '\x27' :: (text ++ '\x27' :: rest) := by simp
      rw [hw, string_literal (not_two hhead (hrest.ne (by decide))), literal_written h]
      rfl
  | @basicLines w text first hfirst h =>
    show (basicLines ((first ++ w ++ rest).length + 4)
      (skipFirstBreak (first ++ w ++ rest))).map _ = _
    rw [basicLines, h.multiline.opened hfirst (hrest.ne (by decide))]
    rfl
  | @literalLines w text first hfirst h =>
    show (literalLines ((first ++ w ++ rest).length + 4)
      (skipFirstBreak (first ++ w ++ rest))).map _ = _
    rw [literalLines, h.multiline.opened hfirst (hrest.ne (by decide))]
    rfl

end Strings

/-! ## Every text can be written -/

theorem exists_inline (text : List Char) : ∃ w, Inline w text := by
  have hescape (c : Char) (hc : ¬Verbatim c) : ∃ e, Escape e c := by
    have hlt : c.toNat < 128 := Nat.lt_of_not_le fun h =>
      hc (.inr ⟨by omega, by omega, by rintro rfl; exact absurd h (by decide),
        by rintro rfl; exact absurd h (by decide)⟩)
    exact ⟨_, .short rfl (hex_octet (by omega))⟩
  obtain ⟨w, hw⟩ := exists_written hescape text
  exact ⟨_, .basic hw⟩

end SqlGuard.Profile.Toml
