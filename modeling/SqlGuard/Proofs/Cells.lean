import SqlGuard.Proofs.Casing
import SqlGuard.Proofs.Numerals
import SqlGuard.Server.Cell

/-!
# Values of cells

A cell of an integer type is an integer just if its octets denote one that fits
in 64 bits. Whatever else a cell holds is kept octet for octet, as octets or as
a text (`Keeps`); its type decides in which of these forms.

* `readOctets_exact`: the value of a cell of any type but the floating ones, and
  the cells that the texts of integers are.
-/
namespace SqlGuard.Server

open Text Number

/-- The name by which a type is known: its capitals. -/
def typeName (type : String) : String := String.ofList (capitals type.toList)

/-- The integers of 64 bits with a sign. -/
def FitsSigned (n : Int) : Prop := -(twoTo 63 : Int) ≤ n ∧ n < twoTo 63

/-- The integers of 64 bits without a sign. -/
def FitsUnsigned (n : Nat) : Prop := n < twoTo 64

/-- The value holds just the octets, in a form that the name of their type decides. -/
inductive Keeps (name : String) : List UInt8 → Value → Prop
  | binary (octets : List UInt8) (h : name ∈ binaryTypes) : Keeps name octets (.bytes octets)
  | malformed {octets : List UInt8} (h : ∀ text, Utf8.encodeString text ≠ octets) :
    Keeps name octets (.bytes octets)
  | decimal (text : String) (h : name = "DECIMAL") :
    Keeps name (Utf8.encodeString text) (.decimal text)
  | temporal (text : String) (h : name ∈ temporalTypes) :
    Keeps name (Utf8.encodeString text) (.temporal text)
  | string (text : String) (h : name ∉ "DECIMAL" :: (binaryTypes ++ temporalTypes)) :
    Keeps name (Utf8.encodeString text) (.string text)

/-- What a cell of a type other than the floating ones is read as. -/
structure Decodes (name : String) (octets : List UInt8) (value : Value) : Prop where
  signed : name ∈ signedTypes → ∀ n, value = .int n ↔ DenotesInteger octets n ∧ FitsSigned n
  unsigned : name ∈ unsignedTypes → ∀ n, value = .uint n ↔ DenotesNatural octets n ∧ FitsUnsigned n
  other : ¬(name ∈ signedTypes ∧ ∃ n, DenotesInteger octets n ∧ FitsSigned n) →
    ¬(name ∈ unsignedTypes ∧ ∃ n, DenotesNatural octets n ∧ FitsUnsigned n) →
    Keeps name octets value

/-! ## Types -/

/-- The types of a kind. All other types are read as texts. -/
def Reading.types : Reading → List String
  | .binary => binaryTypes
  | .signed => signedTypes
  | .unsigned => unsignedTypes
  | .floating => floatingTypes
  | .decimal => ["DECIMAL"]
  | .temporal => temporalTypes
  | .text => []

def kinds : List Reading :=
  [.binary, .signed, .unsigned, .floating, .decimal, .temporal, .text]

theorem mem_kinds (r : Reading) : r ∈ kinds := by
  cases r <;> decide

/-- No type is of two kinds. -/
theorem kinds_disjoint : ∀ r ∈ kinds, ∀ r' ∈ kinds, ∀ name ∈ r.types, name ∈ r'.types → r = r' := by
  decide

/-- A type is read as its kind is, and as a text if it is of no kind. -/
theorem ofType_kind (type : String) : typeName type ∈ (Reading.ofType type).types ∨
    Reading.ofType type = .text ∧ ∀ r ∈ kinds, typeName type ∉ r.types := by
  simp only [Reading.ofType, typeName, List.contains_eq_mem, decide_eq_true_eq]
  generalize String.ofList (capitals type.toList) = name
  split_ifs with hb hs hu hf hd ht
  · exact .inl hb
  · exact .inl hs
  · exact .inl hu
  · exact .inl hf
  · exact .inl (List.mem_singleton.mpr hd)
  · exact .inl ht
  · simp [kinds, Reading.types, hb, hs, hu, hf, hd, ht]

theorem ofType_of_mem {type : String} {r : Reading} (h : typeName type ∈ r.types) :
    Reading.ofType type = r := by
  rcases ofType_kind type with hkind | ⟨-, hnone⟩
  · exact kinds_disjoint _ (mem_kinds _) _ (mem_kinds _) _ hkind h
  · exact absurd h (hnone r (mem_kinds r))

/-- The types of all kinds. -/
def knownTypes : List String := kinds.flatMap Reading.types

/-- The name of a type is written in capitals. -/
theorem typeName_of_known {name : String} (h : name ∈ knownTypes) : typeName name = name := by
  have hall : knownTypes.all (fun name => name.toList.all fun c => 'A' ≤ c && c ≤ 'Z' || c = ' ') :=
    by decide
  have hcapital : ∀ c ∈ name.toList, capital c = [c] := by
    intro c hc
    have hletter := List.all_eq_true.mp (List.all_eq_true.mp hall name h) c hc
    simp only [Bool.or_eq_true, Bool.and_eq_true, decide_eq_true_eq] at hletter
    rcases hletter with hletter | rfl
    · exact capital_of_capitalLetter hletter
    · exact capital_of_blank (by decide)
  rw [typeName, capitals, List.flatMap_congr hcapital, List.flatMap_singleton',
    String.ofList_toList]

/-- The case of letters does not matter in the name of a type. -/
theorem typeName_recased {name type : String} (hname : name ∈ knownTypes)
    (h : Recased name.toList type.toList) : typeName type = name := by
  rw [typeName, capitals_recased h]
  exact typeName_of_known hname

/-- A type of no kind but that of texts is none of those that are kept otherwise. -/
theorem not_mem_others {type : String} (hb : Reading.ofType type ≠ .binary)
    (hd : Reading.ofType type ≠ .decimal) (ht : Reading.ofType type ≠ .temporal) :
    typeName type ∉ "DECIMAL" :: (binaryTypes ++ temporalTypes) := by
  rw [List.mem_cons, List.mem_append]
  rintro (h | h | h)
  · exact hd (ofType_of_mem (r := .decimal) (List.mem_singleton.mpr h))
  · exact hb (ofType_of_mem (r := .binary) h)
  · exact ht (ofType_of_mem (r := .temporal) h)

/-! ## Values -/

theorem readSigned_iff {text : String} {n : Int} : readSigned text.toList = some n ↔
    DenotesInteger (Utf8.encodeString text) n ∧ FitsSigned n := by
  rw [readSigned, Option.filter_eq_some_iff, readInteger_iff, FitsSigned, Bool.and_eq_true,
    decide_eq_true_eq, decide_eq_true_eq, Utf8.encodeString]

theorem readUnsigned_iff {text : String} {n : Nat} : readUnsigned text.toList = some n ↔
    DenotesNatural (Utf8.encodeString text) n ∧ FitsUnsigned n := by
  rw [readUnsigned, Option.filter_eq_some_iff, readNatural_iff, FitsUnsigned, decide_eq_true_eq,
    Utf8.encodeString]

theorem readText_signed {text : String} {n : Int} :
    readText .signed text = .int n ↔ readSigned text.toList = some n := by
  rw [readText]
  cases readSigned text.toList <;> simp

theorem readText_unsigned {text : String} {n : Nat} :
    readText .unsigned text = .uint n ↔ readUnsigned text.toList = some n := by
  rw [readText]
  cases readUnsigned text.toList <;> simp

theorem readOctets_malformed (type : String) {octets : List UInt8}
    (h : ∀ text, Utf8.encodeString text ≠ octets) : readOctets type octets = .bytes octets := by
  unfold readOctets
  cases Reading.ofType type with
  | binary => rfl
  | _ =>
    dsimp only
    cases hd : Utf8.decodeString octets with
    | error malformed => rfl
    | ok text => exact absurd (Utf8.decodeString_eq_ok_iff.mp hd) (h text)

theorem readOctets_text {type : String} (hb : Reading.ofType type ≠ .binary) (text : String) :
    readOctets type (Utf8.encodeString text) = readText (Reading.ofType type) text := by
  unfold readOctets
  rw [Utf8.decodeString_encodeString]
  cases hr : Reading.ofType type with
  | binary => exact absurd hr hb
  | _ => rfl

/-- A value other than octets is read from a text. -/
theorem readOctets_iff {type : String} (hb : Reading.ofType type ≠ .binary) {octets : List UInt8}
    {value : Value} (hv : ∀ octets, value ≠ .bytes octets) : readOctets type octets = value ↔
      ∃ text, Utf8.encodeString text = octets ∧ readText (Reading.ofType type) text = value := by
  constructor
  · intro h
    by_cases htext : ∃ text, Utf8.encodeString text = octets
    · obtain ⟨text, rfl⟩ := htext
      exact ⟨text, rfl, (readOctets_text hb text).symm.trans h⟩
    · rw [readOctets_malformed type fun text ht => htext ⟨text, ht⟩] at h
      exact absurd h.symm (hv octets)
  · rintro ⟨text, rfl, h⟩
    exact (readOctets_text hb text).trans h

/-- A value that only octets of a text can denote is read from just the octets that denote it. -/
theorem readOctets_denoting {type : String} {value : Value} (denotes : List UInt8 → Prop)
    (hb : Reading.ofType type ≠ .binary) (hv : ∀ octets, value ≠ .bytes octets)
    (htext : ∀ octets, denotes octets → ∃ s, Utf8.encode s = octets)
    (hread : ∀ text, readText (Reading.ofType type) text = value ↔
      denotes (Utf8.encodeString text)) {octets : List UInt8} :
    readOctets type octets = value ↔ denotes octets := by
  rw [readOctets_iff hb hv]
  constructor
  · rintro ⟨text, rfl, h⟩
    exact (hread text).mp h
  · intro h
    obtain ⟨s, rfl⟩ := htext octets h
    refine ⟨String.ofList s, Utf8.encodeString_ofList s, (hread _).mpr ?_⟩
    rwa [Utf8.encodeString_ofList]

theorem readOctets_signed {type : String} (hr : Reading.ofType type = .signed)
    {octets : List UInt8} {n : Int} :
    readOctets type octets = .int n ↔ DenotesInteger octets n ∧ FitsSigned n := by
  refine readOctets_denoting (fun octets => DenotesInteger octets n ∧ FitsSigned n) ?_ ?_
    (fun octets h => ?_) fun text => ?_
  · simp [hr]
  · simp
  · obtain ⟨s, hs, -⟩ := h.1.text
    exact ⟨s, hs⟩
  · rw [hr]
    exact readText_signed.trans readSigned_iff

theorem readOctets_unsigned {type : String} (hr : Reading.ofType type = .unsigned)
    {octets : List UInt8} {n : Nat} :
    readOctets type octets = .uint n ↔ DenotesNatural octets n ∧ FitsUnsigned n := by
  refine readOctets_denoting (fun octets => DenotesNatural octets n ∧ FitsUnsigned n) ?_ ?_
    (fun octets h => ?_) fun text => ?_
  · simp [hr]
  · simp
  · obtain ⟨s, hs, -⟩ := h.1.text
    exact ⟨s, hs⟩
  · rw [hr]
    exact readText_unsigned.trans readUnsigned_iff

/-- A text that is no number of its type is kept as a text. -/
theorem readText_keeps {type text : String} (hb : Reading.ofType type ≠ .binary)
    (hf : Reading.ofType type ≠ .floating)
    (hs : Reading.ofType type = .signed → readSigned text.toList = none)
    (hu : Reading.ofType type = .unsigned → readUnsigned text.toList = none) :
    Keeps (typeName type) (Utf8.encodeString text) (readText (Reading.ofType type) text) := by
  have hothers := not_mem_others hb
  have hkind := ofType_kind type
  cases hr : Reading.ofType type with
  | binary => exact absurd hr hb
  | floating => exact absurd hr hf
  | signed =>
    rw [readText, hs hr]
    exact .string text (hothers (by simp [hr]) (by simp [hr]))
  | unsigned =>
    rw [readText, hu hr]
    exact .string text (hothers (by simp [hr]) (by simp [hr]))
  | decimal => exact .decimal text (by simpa [hr, Reading.types] using hkind)
  | temporal => exact .temporal text (by simpa [hr, Reading.types] using hkind)
  | text => exact .string text (hothers (by simp [hr]) (by simp [hr]))

/-- What denotes no number of its type is kept. -/
theorem readOctets_keeps {type : String} {octets : List UInt8}
    (hf : Reading.ofType type ≠ .floating)
    (hs : Reading.ofType type = .signed → ∀ n, ¬(DenotesInteger octets n ∧ FitsSigned n))
    (hu : Reading.ofType type = .unsigned → ∀ n, ¬(DenotesNatural octets n ∧ FitsUnsigned n)) :
    Keeps (typeName type) octets (readOctets type octets) := by
  by_cases hb : Reading.ofType type = .binary
  · have hkind := ofType_kind type
    rw [readOctets, hb]
    exact .binary _ (by simpa [hb, Reading.types] using hkind)
  by_cases htext : ∃ text, Utf8.encodeString text = octets
  · obtain ⟨text, rfl⟩ := htext
    rw [readOctets_text hb]
    refine readText_keeps hb hf (fun h => ?_) fun h => ?_
    · exact Option.eq_none_iff_forall_ne_some.mpr fun n hn => hs h n (readSigned_iff.mp hn)
    · exact Option.eq_none_iff_forall_ne_some.mpr fun n hn => hu h n (readUnsigned_iff.mp hn)
  · have hnone : ∀ text, Utf8.encodeString text ≠ octets := fun text ht => htext ⟨text, ht⟩
    rw [readOctets_malformed type hnone]
    exact .malformed hnone

theorem readOctets_decodes {type : String} (hf : typeName type ∉ floatingTypes)
    (octets : List UInt8) : Decodes (typeName type) octets (readOctets type octets) := by
  have hfloating : Reading.ofType type ≠ .floating := by
    intro hr
    have hkind := ofType_kind type
    exact hf (by simpa [hr, Reading.types] using hkind)
  refine ⟨fun h n => readOctets_signed (ofType_of_mem (r := .signed) h), fun h n =>
    readOctets_unsigned (ofType_of_mem (r := .unsigned) h), fun hs hu => ?_⟩
  have hkind := ofType_kind type
  refine readOctets_keeps hfloating (fun hr n hn => hs ⟨?_, n, hn⟩) fun hr n hn => hu ⟨?_, n, hn⟩
  · simpa [hr, Reading.types] using hkind
  · simpa [hr, Reading.types] using hkind

/-- The name of a type may be written in any case. In every type but the floating ones a cell is an
integer just if its octets denote one that fits in its 64 bits, and all other octets are kept. So
every integer of 64 bits is read from its text, and shown as this text. -/
theorem readOctets_exact (type : String) :
    (∀ name ∈ knownTypes, Recased name.toList type.toList → typeName type = name) ∧
    (typeName type ∉ floatingTypes →
      ∀ octets, Decodes (typeName type) octets (readOctets type octets)) ∧
    (typeName type ∈ signedTypes → ∀ n : Int, FitsSigned n →
      readOctets type (Utf8.encodeString (toString n)) = .int n ∧
        (Value.int n).display = toString n) ∧
    (typeName type ∈ unsignedTypes → ∀ n : Nat, FitsUnsigned n →
      readOctets type (Utf8.encodeString (toString n)) = .uint n ∧
        (Value.uint n).display = toString n) := by
  refine ⟨fun name => typeName_recased, readOctets_decodes, fun h n hn => ⟨?_, rfl⟩,
    fun h n hn => ⟨?_, rfl⟩⟩
  · exact (readOctets_signed (ofType_of_mem (r := .signed) h)).mpr
      ⟨readInteger_iff.mp (readInteger_toString n), hn⟩
  · exact (readOctets_unsigned (ofType_of_mem (r := .unsigned) h)).mpr
      ⟨readNatural_iff.mp (readNatural_toString n), hn⟩

/-- The least integer of a type in letters of both cases is read, and what is one more than the
greatest is kept as a text. -/
theorem bigint_edges :
    typeName "bigInt" = "BIGINT" ∧
    readOctets "bigInt" (Utf8.encodeString (toString (-9223372036854775808 : Int))) =
      .int (-9223372036854775808) ∧
    Keeps "BIGINT" (Utf8.encodeString "+9223372036854775808") (.string "+9223372036854775808") := by
  obtain ⟨hname, hdecodes, hsigned, -⟩ := readOctets_exact "bigInt"
  have hbigint : typeName "bigInt" = "BIGINT" :=
    hname "BIGINT" (by decide) (by unfold Recased; decide)
  rw [hbigint] at hdecodes hsigned
  have hvalue : readOctets "bigInt" (Utf8.encodeString "+9223372036854775808") =
      .string "+9223372036854775808" := by
    decide +kernel
  have hbeyond := hdecodes (by decide) (Utf8.encodeString "+9223372036854775808")
  rw [hvalue] at hbeyond
  have hleast : FitsSigned (-9223372036854775808) := ⟨by decide, by decide⟩
  refine ⟨hbigint, (hsigned (by decide) _ hleast).1, hbeyond.other ?_ ?_⟩
  · rintro ⟨h, n, hn⟩
    cases (hbeyond.signed h n).mpr hn
  · exact fun ⟨h, _⟩ => absurd h (by decide)

end SqlGuard.Server
