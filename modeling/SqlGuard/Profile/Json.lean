import SqlGuard.ConnectionString.Percent
import SqlGuard.Profile.Cursor
import SqlGuard.Profile.Draft

/-!
# Profiles in JSON

`readJson` reads an endpoint from a document that is an object with named
settings, or a list of values in the order of the fields. What is wrong first
is reported, with its position, be it the form of the document or a setting in
it. The values of names without a meaning only have to be well formed.

This is the reading that `parse_json` asks for.
-/
namespace SqlGuard.Profile

namespace Json

/-- What is wrong with a document. -/
inductive Flaw
  | endInValue
  | endInObject
  | endInList
  | endInString
  | expectedColon
  | expectedListEnd
  | expectedObjectEnd
  | expectedWord
  | expectedValue
  | badEscape
  | badNumber
  | numberOutOfRange
  | controlCharacter
  | keyNotString
  | loneSurrogate
  | hexEscapeEnd
  | trailingComma
  | trailingCharacters
  | unfit (cause : Unfit)
  deriving DecidableEq, Repr

def Flaw.text : Flaw → String
  | .endInValue => "EOF while parsing a value"
  | .endInObject => "EOF while parsing an object"
  | .endInList => "EOF while parsing a list"
  | .endInString => "EOF while parsing a string"
  | .expectedColon => "expected `:`"
  | .expectedListEnd => "expected `,` or `]`"
  | .expectedObjectEnd => "expected `,` or `\x7d`"
  | .expectedWord => "expected ident"
  | .expectedValue => "expected value"
  | .badEscape => "invalid escape"
  | .badNumber => "invalid number"
  | .numberOutOfRange => "number out of range"
  | .controlCharacter => "control character (\\u0000-\\u001F) found while parsing a string"
  | .keyNotString => "key must be a string"
  | .loneSurrogate => "lone leading surrogate in hex escape"
  | .hexEscapeEnd => "unexpected end of hex escape"
  | .trailingComma => "trailing comma"
  | .trailingCharacters => "trailing characters"
  | .unfit cause => cause.text Binary64.scientific

abbrev Read (α : Type) : Type := Reader Flaw α

open Reader

/-! ## Octets -/

def quote : UInt8 := 34
def comma : UInt8 := 44
def minus : UInt8 := 45
def point : UInt8 := 46
def colon : UInt8 := 58
def openList : UInt8 := 91
def backslash : UInt8 := 92
def closeList : UInt8 := 93
def openObject : UInt8 := 123
def closeObject : UInt8 := 125

def isBlank (b : UInt8) : Bool := b = 32 || b = 10 || b = 9 || b = 13

def isDigit (b : UInt8) : Bool := 48 ≤ b && b ≤ 57

def isExponentMark (b : UInt8) : Bool := b = 101 || b = 69

def digitOf (b : UInt8) : Nat := b.toNat - 48

/-- Skips blanks and looks at what comes next. -/
def peekToken : Read (Option UInt8) := do
  discard (takeWhile isBlank)
  peek

/-- Skips blanks and looks at what comes next, which must not be the end. -/
def peekValue : Read UInt8 := do
  match ← peekToken with
  | none => failNext .endInValue
  | some b => pure b

/-- Takes the octet that has just been looked at. -/
def skip : Read Unit := discard take

def peekIs (fits : UInt8 → Bool) : Read Bool := do
  match ← peek with
  | some b => pure (fits b)
  | none => pure false

/-! ## Words and strings -/

/-- The rest of a word. -/
def readWord : List UInt8 → Read Unit
  | [] => pure ()
  | b :: rest => do
    match ← take with
    | none => failHere .endInValue
    | some c => if c = b then readWord rest else failHere .expectedWord

/-- The number of four hexadecimal digits. -/
def readHex : Read Nat := do
  let octets ← takeCount 4
  if octets.length < 4 then failHere .endInString
  else
    let digits := octets.map fun b => ConnectionString.hexValue (Char.ofNat b.toNat)
    match digits with
    | [some a, some b, some c, some d] => pure (((a * 16 + b) * 16 + c) * 16 + d)
    | _ => failHere .badEscape

def isLeading (n : Nat) : Bool := 0xD800 ≤ n && n ≤ 0xDBFF

def isTrailing (n : Nat) : Bool := 0xDC00 ≤ n && n ≤ 0xDFFF

/-- The octet that has to follow the first half of a pair. -/
def expectSecondHalf (b : UInt8) : Read Unit := do
  match ← take with
  | none => failHere .endInString
  | some c => if c = b then pure () else failHere .hexEscapeEnd

/-- The character of an escape by number. Two halves of a pair make one. -/
def readHexEscape : Read Char := do
  let n ← readHex
  if isTrailing n then failHere .loneSurrogate
  else if isLeading n then
    expectSecondHalf backslash
    expectSecondHalf 117
    let m ← readHex
    if isTrailing m then pure (Char.ofNat ((n - 0xD800) * 1024 + (m - 0xDC00) + 0x10000))
    else failHere .loneSurrogate
  else pure (Char.ofNat n)

/-- The character that stands for itself or has a letter of its own behind a
backslash. -/
def plainEscape (b : UInt8) : Option Char :=
  if b = quote then some '"'
  else if b = backslash then some '\\'
  else if b = 47 then some '/'
  else if b = 98 then some '\x08'
  else if b = 102 then some '\x0c'
  else if b = 110 then some '\n'
  else if b = 114 then some '\r'
  else if b = 116 then some '\t'
  else none

/-- The character behind a backslash. -/
def readEscape : Read Char := do
  match ← take with
  | none => failHere .endInString
  | some b =>
    match plainEscape b with
    | some c => pure c
    | none => if b = 117 then readHexEscape else failHere .badEscape

def isStringOctet (b : UInt8) : Bool := b ≠ quote && b ≠ backslash && 32 ≤ b

/-- The octets of a string behind its quote. Every round takes an octet. -/
def readString : Nat → Read (List UInt8)
  | 0 => failHere .endInString
  | fuel + 1 => do
    let front ← takeWhile isStringOctet
    match ← take with
    | none => failHere .endInString
    | some b =>
      if b = quote then pure front
      else if b = backslash then
        let c ← readEscape
        return front ++ String.utf8EncodeChar c ++ (← readString fuel)
      else failHere .controlCharacter

/-- A string, whose quote comes next. -/
def readQuoted : Read String := do
  skip
  let octets ← readString ((← remaining) + 1)
  pure ((Text.Utf8.decodeString octets).toOption.getD "")

/-- Skips a string behind its quote. Pairs of halves are not looked at. -/
def skipString : Nat → Read Unit
  | 0 => failHere .endInString
  | fuel + 1 => do
    discard (takeWhile isStringOctet)
    match ← peek with
    | none => failHere .endInString
    | some b =>
      if b = quote then skip
      else if b = backslash then
        skip
        match ← take with
        | none => failHere .endInString
        | some e =>
          if (plainEscape e).isSome then skipString fuel
          else if e = 117 then
            discard readHex
            skipString fuel
          else failHere .badEscape
      else failHere .controlCharacter

/-! ## Numbers -/

/-- A number as digits and a power of ten. Digits that 64 bits cannot hold are
only counted. -/
structure Digits where
  significand : Nat
  power : Int

def fitsWord (n : Nat) : Bool := n < twoTo 64

/-- The digits in front of a point. -/
def wholeDigits (ds : List UInt8) : Digits :=
  ds.foldl (fun d b =>
    let next := 10 * d.significand + digitOf b
    if d.power = 0 && fitsWord next then ⟨next, 0⟩ else ⟨d.significand, d.power + 1⟩) ⟨0, 0⟩

/-- The digits behind a point follow those in front of it, until there are too
many. -/
def pointDigits (d : Digits) : List UInt8 → Digits
  | [] => d
  | b :: rest =>
    let next := 10 * d.significand + digitOf b
    if fitsWord next then pointDigits ⟨next, d.power - 1⟩ rest else d

/-- The power of ten as a double. -/
def powerOfTen (n : Nat) : Binary64 := .ofRatio false (tenTo n) 1

/-- Multiplies or divides by powers of ten, each step rounded to a double.
Nothing comes of a number that is too large. -/
def scale : Nat → Binary64 → Int → Option Binary64
  | 0, x, _ => some x
  | fuel + 1, x, power =>
    if power.natAbs ≤ 308 then
      let y := if 0 ≤ power then x.times (powerOfTen power.toNat)
        else x.dividedBy (powerOfTen (-power).toNat)
      if y.isInfinite then none else some y
    else if x.isZero then some x
    else if 0 ≤ power then none
    else scale fuel (x.dividedBy (powerOfTen 308)) (power + 308)

def floatOf (negative : Bool) (d : Digits) : Read Setting :=
  match scale 4 (.ofRatio false d.significand 1) d.power with
  | some x => pure (.float (if negative then x.negate else x))
  | none => failHere .numberOutOfRange

/-- The exponents that are told apart. -/
def exponentLimit : Nat := twoTo 31

/-- The number with the exponent that comes next. -/
def readExponent (negative : Bool) (d : Digits) : Read Setting := do
  skip
  let sign ← peek
  if sign = some 43 ∨ sign = some minus then skip
  match ← take with
  | none => failHere .endInValue
  | some b =>
    if isDigit b then
      let (size, tooLarge) ← readSize (digitOf b)
      if tooLarge && d.significand ≠ 0 && sign ≠ some minus then failHere .numberOutOfRange
      else
        discard (takeWhile isDigit)
        let power : Int := if sign = some minus then -size else size
        if tooLarge then pure (.float (.signed negative 0))
        else floatOf negative ⟨d.significand, d.power + power⟩
    else failHere .badNumber
where
  /-- The size of an exponent, up to the digit that makes it too large. -/
  readSize (first : Nat) : Read (Nat × Bool) := fun c =>
    let rec go (n : Nat) (p : Position) : List UInt8 → (Nat × Bool) × Cursor
      | [] => ((n, false), ⟨[], p⟩)
      | b :: rest =>
        if isDigit b then
          let next := 10 * n + digitOf b
          if next < exponentLimit then go next (p.after b) rest
          else ((n, true), ⟨rest, p.after b⟩)
        else ((n, false), ⟨b :: rest, p⟩)
    .ok (go first c.position c.rest)

/-- The number with the fraction that comes next. -/
def readFraction (negative : Bool) (d : Digits) : Read Setting := do
  skip
  let ds ← takeWhile isDigit
  if ds.isEmpty then
    match ← peek with
    | none => failNext .endInValue
    | some _ => failNext .badNumber
  else
    let d := pointDigits d ds
    if ← peekIs isExponentMark then readExponent negative d else floatOf negative d

/-- The number with the digits that have been read. -/
def readRest (negative : Bool) (d : Digits) : Read Setting := do
  if ← peekIs (· = point) then readFraction negative d
  else if ← peekIs isExponentMark then readExponent negative d
  else if d.power ≠ 0 then floatOf negative d
  else if !negative then pure (.integer d.significand)
  else if d.significand = 0 || twoTo 63 < d.significand then
    pure (.float (Binary64.ofRatio false d.significand 1).negate)
  else pure (.integer (-d.significand))

/-- A number, whose sign has been taken. It has no leading zeros. -/
def readNumber (negative : Bool) : Read Setting := do
  match ← take with
  | none => failHere .endInValue
  | some b =>
    if b = 48 then
      if ← peekIs isDigit then failNext .badNumber else readRest negative ⟨0, 0⟩
    else if isDigit b then
      let more ← takeWhile isDigit
      readRest negative (wholeDigits (b :: more))
    else failHere .badNumber

/-- Skips an exponent. -/
def skipExponent : Read Unit := do
  skip
  if ← peekIs (fun b => b = 43 || b = minus) then skip
  if ← peekIs isDigit then discard (takeWhile isDigit)
  else
    skip
    failHere .badNumber

/-- Skips what may follow the digits of a number. -/
def skipRest : Read Unit := do
  if ← peekIs (· = point) then
    skip
    if (← takeWhile isDigit).isEmpty then failNext .badNumber
    if ← peekIs isExponentMark then skipExponent
  else if ← peekIs isExponentMark then skipExponent

/-- Skips a number, whose sign has been taken. -/
def skipNumber : Read Unit := do
  match ← take with
  | none => failHere .badNumber
  | some b =>
    if b = 48 then
      if ← peekIs isDigit then failNext .badNumber else skipRest
    else if isDigit b then
      discard (takeWhile isDigit)
      skipRest
    else failHere .badNumber

/-! ## Values -/

/-- The value that comes next. Of a list or an object, only the kind is told,
and nothing is taken. -/
def readSetting : Read Setting := do
  let b ← peekValue
  if b = quote then return .text (← readQuoted)
  else if b = minus then
    skip
    readNumber true
  else if isDigit b then readNumber false
  else if b = 110 then
    skip
    readWord [117, 108, 108]
    pure .null
  else if b = 116 then
    skip
    readWord [114, 117, 101]
    pure (.bool true)
  else if b = 102 then
    skip
    readWord [97, 108, 115, 101]
    pure (.bool false)
  else if b = openList then pure .sequence
  else if b = openObject then pure .map
  else failNext .expectedValue

/-- What a value stands in. -/
inductive Frame
  | list
  | object
  deriving DecidableEq

def Frame.closing : Frame → UInt8
  | .list => closeList
  | .object => closeObject

def Frame.expectedEnd : Frame → Flaw
  | .list => .expectedListEnd
  | .object => .expectedObjectEnd

def Frame.endInside : Frame → Flaw
  | .list => .endInList
  | .object => .endInObject

/-- Skips the name of a value in an object, and its colon. -/
def skipName : Read Unit := do
  match ← peekToken with
  | none => failNext .endInObject
  | some b => if b = quote then skip else failNext .keyNotString
  skipString ((← remaining) + 1)
  match ← peekToken with
  | none => failNext .endInObject
  | some b => if b = colon then skip else failNext .expectedColon

/-- Skips a simple value, or the start of a list or an object. -/
def skipSimple : Read (Option Frame) := do
  let b ← peekValue
  if b = openList then
    skip
    pure (some .list)
  else if b = openObject then
    skip
    pure (some .object)
  else
    if b = quote then
      skip
      skipString ((← remaining) + 1)
    else if b = minus then
      skip
      skipNumber
    else if isDigit b then skipNumber
    else if b = 110 then
      skip
      readWord [117, 108, 108]
    else if b = 116 then
      skip
      readWord [114, 117, 101]
    else if b = 102 then
      skip
      readWord [97, 108, 115, 101]
    else failNext .expectedValue
    pure none

/-- Closes what is open, as long as that comes next. The frames of what is
still open are left, and whether a value has to follow. -/
def closeFrames (first : Bool) : List Frame → Read (List Frame)
  | [] => pure []
  | frame :: outer => do
    match ← peekToken with
    | none => failNext frame.endInside
    | some b =>
      if b = comma && !first then
        skip
        pure (frame :: outer)
      else if b = frame.closing then
        skip
        closeFrames false outer
      else if first then pure (frame :: outer)
      else failNext frame.expectedEnd

/-- Skips a value inside the frames that are open. Every round takes an
octet. -/
def skipValue : Nat → List Frame → Read Unit
  | 0, _ => failHere .endInValue
  | fuel + 1, frames => do
    let opened ← skipSimple
    let left ← match opened with
      | some frame => closeFrames true (frame :: frames)
      | none => closeFrames false frames
    match left with
    | [] => pure ()
    | .list :: _ => skipValue fuel left
    | .object :: _ => do
      skipName
      skipValue fuel left

/-! ## Documents -/

/-- Fails because of the settings. -/
def unfit {α : Type} (cause : Unfit) : Read α := failHere (.unfit cause)

def orUnfit {α : Type} (result : Except Unfit α) : Read α :=
  match result with
  | .ok a => pure a
  | .error cause => unfit cause

/-- The colon behind a name. -/
def readColon : Read Unit := do
  match ← peekToken with
  | none => failNext .endInObject
  | some b => if b = colon then skip else failNext .expectedColon

/-- Takes the end of an object if it comes next. -/
def takeObjectEnd : Read Unit := do
  if (← peekToken) = some closeObject then skip

/-- Whether another name follows in an object. -/
def anotherName (first : Bool) : Read Bool := do
  match ← peekToken with
  | none => failNext .endInObject
  | some b =>
    if b = closeObject then pure false
    else if first then
      if b = quote then pure true else failNext .keyNotString
    else if b = comma then
      skip
      match ← peekToken with
      | none => failNext .endInValue
      | some b =>
        if b = quote then pure true
        else if b = closeObject then failNext .trailingComma
        else failNext .keyNotString
    else failNext .expectedObjectEnd

/-- The settings of an object behind its opening. Every round takes an octet. -/
def readObject : Nat → Bool → Draft → Read Endpoint
  | 0, _, _ => failHere .endInObject
  | fuel + 1, first, draft => do
    if ← anotherName first then
      match Field.ofName (← readQuoted) with
      | none =>
        readColon
        skipValue ((← remaining) + 1) []
        readObject fuel false draft
      | some field =>
        if draft.has field then
          takeObjectEnd
          unfit (.duplicate field)
        else
          readColon
          let setting ← readSetting
          readObject fuel false (← orUnfit (draft.set field setting))
    else
      takeObjectEnd
      orUnfit draft.endpoint

/-- Whether another value follows in a list. -/
def anotherValue (first : Bool) : Read Bool := do
  match ← peekToken with
  | none => failNext .endInList
  | some b =>
    if b = closeList then pure false
    else if first then pure true
    else if b = comma then
      skip
      match ← peekToken with
      | none => failNext .endInValue
      | some b => if b = closeList then failNext .trailingComma else pure true
    else failNext .expectedListEnd

/-- The end of a list of values. -/
def readListEnd : Read Unit := do
  match ← peekToken with
  | none => failNext .endInList
  | some b =>
    if b = closeList then skip
    else if b = comma then
      skip
      if (← peekToken) = some closeList then failNext .trailingComma
      else failNext .trailingCharacters
    else failNext .trailingCharacters

/-- The fields that a list of values cannot do without. -/
def isRequired : Field → Bool
  | .host | .user => true
  | _ => false

/-- The values of a list, one for each of the fields. -/
def readList : List Field → Nat → Draft → Read Endpoint
  | [], _, draft => do
    readListEnd
    orUnfit draft.endpoint
  | field :: fields, taken, draft => do
    if ← anotherValue (taken = 0) then
      let setting ← readSetting
      readList fields (taken + 1) (← orUnfit (draft.set field setting))
    else if isRequired field then
      readListEnd
      unfit (.tooShort taken)
    else readList fields (taken + 1) draft

/-- A whole document. -/
def readDocument : Read Endpoint := do
  let b ← peekValue
  let endpoint ←
    if b = openObject then do
      skip
      readObject ((← remaining) + 1) true .empty
    else if b = openList then do
      skip
      readList Field.all 0 .empty
    else do
      let setting ← readSetting
      unfit (.wrongType setting endpointName)
  match ← peekToken with
  | none => pure endpoint
  | some _ => failNext .trailingCharacters

end Json

/-- The endpoint that a document describes, or what is wrong with it, and
where. -/
def readJson (document : List UInt8) : Except (Json.Flaw × Position) Endpoint :=
  match Json.readDocument ⟨document, .start⟩ with
  | .ok (endpoint, _) => .ok endpoint
  | .error fault => .error fault

end SqlGuard.Profile
