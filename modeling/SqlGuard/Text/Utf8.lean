/-!
# UTF-8

`encode` writes a text as octets and `decode` reads octets as a text, or says
where and how they stop being one. A sequence that the end of the octets cuts
short is told apart from one that no octets could complete.

Input lines are decoded in this way in `prompt_loop`, and cells in
`value_from_text`.
-/
namespace SqlGuard.Text.Utf8

/-- The octets of a text. -/
def encode (s : List Char) : List UInt8 := s.flatMap String.utf8EncodeChar

/-- Where octets stop being a text: the index of the first bad octet, and the
number of octets to blame, which is missing if the octets end too early. -/
structure Malformed where
  index : Nat
  length : Option Nat
  deriving DecidableEq, Repr

def Malformed.text (m : Malformed) : String :=
  match m.length with
  | some n => "invalid utf-8 sequence of " ++ toString n ++ " bytes from index " ++ toString m.index
  | none => "incomplete utf-8 byte sequence from index " ++ toString m.index

def isContinuation (b : UInt8) : Bool := 0x80 ≤ b && b ≤ 0xBF

/-- The second octet may follow the lead octet of a sequence of three. -/
def fitsThree (lead second : UInt8) : Bool :=
  (if lead = 0xE0 then 0xA0 else 0x80) ≤ second && second ≤ (if lead = 0xED then 0x9F else 0xBF)

/-- The second octet may follow the lead octet of a sequence of four. -/
def fitsFour (lead second : UInt8) : Bool :=
  (if lead = 0xF0 then 0x90 else 0x80) ≤ second && second ≤ (if lead = 0xF4 then 0x8F else 0xBF)

/-- The low six bits of a continuation octet. -/
def payload (b : UInt8) : Nat := b.toNat % 64

/-- Reads octets whose first one has the given index. -/
def decodeFrom (index : Nat) : List UInt8 → Except Malformed (List Char)
  | [] => .ok []
  | a :: rest =>
    if a < 0x80 then (decodeFrom (index + 1) rest).map (Char.ofNat a.toNat :: ·)
    else if 0xC2 ≤ a ∧ a ≤ 0xDF then
      match rest with
      | [] => .error ⟨index, none⟩
      | b :: rest =>
        if isContinuation b then
          (decodeFrom (index + 2) rest).map (Char.ofNat (a.toNat % 32 * 64 + payload b) :: ·)
        else .error ⟨index, some 1⟩
    else if 0xE0 ≤ a ∧ a ≤ 0xEF then
      match rest with
      | [] => .error ⟨index, none⟩
      | [b] => .error ⟨index, if fitsThree a b then none else some 1⟩
      | b :: c :: rest =>
        if !fitsThree a b then .error ⟨index, some 1⟩
        else if !isContinuation c then .error ⟨index, some 2⟩
        else
          (decodeFrom (index + 3) rest).map
            (Char.ofNat ((a.toNat % 16 * 64 + payload b) * 64 + payload c) :: ·)
    else if 0xF0 ≤ a ∧ a ≤ 0xF4 then
      match rest with
      | [] => .error ⟨index, none⟩
      | [b] => .error ⟨index, if fitsFour a b then none else some 1⟩
      | [b, c] =>
        .error ⟨index, if !fitsFour a b then some 1 else if isContinuation c then none else some 2⟩
      | b :: c :: d :: rest =>
        if !fitsFour a b then .error ⟨index, some 1⟩
        else if !isContinuation c then .error ⟨index, some 2⟩
        else if !isContinuation d then .error ⟨index, some 3⟩
        else
          (decodeFrom (index + 4) rest).map
            (Char.ofNat (((a.toNat % 8 * 64 + payload b) * 64 + payload c) * 64 + payload d) :: ·)
    else .error ⟨index, some 1⟩

/-- The text that the octets are, if they are one. -/
def decode (bytes : List UInt8) : Except Malformed (List Char) := decodeFrom 0 bytes

/-- The text that the octets are, as a `String`. -/
def decodeString (bytes : List UInt8) : Except Malformed String :=
  (decode bytes).map String.ofList

/-- The octets of a `String`. -/
def encodeString (s : String) : List UInt8 := encode s.toList

end SqlGuard.Text.Utf8
