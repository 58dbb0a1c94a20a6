import SqlGuard.Text.WidthTable

/-!
# The number of terminal columns a text takes

`width` reads a text from its end to its start. What a character adds depends
on what follows it: a selector or a joiner to its right can change a
character's form, and a ligature gives two letters the width of one.
`Following` is that knowledge about the right-hand side, and `measure` takes
one character into account.

The grid measures its cells with it, as `display_width` does.
-/
namespace SqlGuard.Text

/-- What stands to the right of a character, as far as it matters to its width. -/
inductive Shape
  | plain
  | lineFeed
  | alef
  | lamed (joined : Bool)
  | ya (joined : Bool)
  | vowelYa
  | tifinagh (joined : Bool)
  | tifinaghJoiner
  | lisuTone
  | orkhonI (joined : Bool)
  | khmerLetter
  | kiratE
  | kiratAi
  | tone
  | region
  | regions
  | emoji
  | joinedEmoji
  | joinedKeycap
  | joinedRegion
  | joinedEven
  | joinedOdd
  | tagLetters (count : Nat)
  | tagDigits (count : Nat)
  deriving DecidableEq, Repr

namespace Shape

/-- Marks may stand inside the ligature that ends here. -/
def seesThrough : Shape → Bool
  | .lamed _ | .ya _ | .vowelYa | .tifinagh _ | .tifinaghJoiner | .lisuTone | .orkhonI _ => true
  | _ => false

/-- A letter that takes part in a ligature keeps a selector waiting. -/
def inLigature (shape : Shape) : Bool := shape = .alef || shape.seesThrough

/-- The emoji to the right has a joiner in front of it. -/
def joinsEmoji : Shape → Bool
  | .joinedEmoji | .joinedKeycap => true
  | _ => false

/-- A joiner in front of a ligature's last letter joins it. -/
def join : Shape → Shape
  | .lamed _ => .lamed true
  | .ya _ => .ya true
  | .tifinagh _ => .tifinagh true
  | .orkhonI _ => .orkhonI true
  | shape => shape

end Shape

/-- The right-hand side of a character: its shape, and whether an emoji or a
text selector that stands there still waits for its character. -/
structure Following where
  shape : Shape
  emojiSelector : Bool
  textSelector : Bool
  deriving DecidableEq, Repr

namespace Following

def of (shape : Shape) : Following := ⟨shape, false, false⟩

def plain : Following := of .plain

def awaitEmoji (f : Following) : Following :=
  if f.shape.inLigature || f.shape.joinsEmoji then { f with emojiSelector := true }
  else ⟨.plain, true, false⟩

def awaitText (f : Following) : Following :=
  if f.shape.inLigature then { f with textSelector := true } else ⟨.plain, false, true⟩

def dropEmoji (f : Following) : Following :=
  if f.shape.inLigature then { f with emojiSelector := false } else plain

def dropText (f : Following) : Following :=
  if f.shape.inLigature then { f with textSelector := false } else plain

end Following

/-- Marks that never come between the letters of a ligature. -/
def ligatureTransparent : List CharRange :=
  [(0x34F, 0x34F), (0x17B4, 0x17B5), (0x180B, 0x180D), (0x180F, 0x180F), (0x200D, 0x200D),
   (0xFE00, 0xFE0F), (0xE0100, 0xE01EF)]

/-- Arabic letters of the joining group of alef. -/
def alefs : List CharRange :=
  [(0x622, 0x623), (0x625, 0x625), (0x627, 0x627), (0x671, 0x673), (0x675, 0x675),
   (0x773, 0x774), (0x870, 0x882)]

/-- Arabic letters of the joining group of lam. -/
def lams : List CharRange :=
  [(0x644, 0x644), (0x6B5, 0x6B8), (0x76A, 0x76A), (0x8A6, 0x8A6), (0x8C7, 0x8C7)]

/-- Khmer letters that a coeng sign puts below their neighbour. -/
def coengLetters : List CharRange :=
  [(0x1780, 0x1782), (0x1784, 0x1787), (0x1789, 0x178C), (0x178E, 0x1793), (0x1795, 0x1798),
   (0x179B, 0x179D), (0x17A0, 0x17A0), (0x17A2, 0x17A2), (0x17A7, 0x17A7), (0x17AB, 0x17AC),
   (0x17AF, 0x17AF)]

def tifinaghConsonants : List CharRange := [(0x2D31, 0x2D65), (0x2D6F, 0x2D6F)]

def isRegion (code : Nat) : Bool := 0x1F1E6 ≤ code && code ≤ 0x1F1FF

def isTone (code : Nat) : Bool := 0x1F3FB ≤ code && code ≤ 0x1F3FF

def isTagLetter (code : Nat) : Bool := 0xE0061 ≤ code && code ≤ 0xE007A

def isTagDigit (code : Nat) : Bool := 0xE0030 ≤ code && code ≤ 0xE0039

/-- The width of a code point above `U+00A0` on its own, and its shape. -/
def ownWidth (code : Nat) : Int × Following :=
  if code = 0xFE0F then (0, ⟨.plain, true, false⟩)
  else if code = 0xFE0E then (0, ⟨.plain, false, true⟩)
  else if code = 0x5DC then (1, .of (.lamed false))
  else if inRanges alefs code then (1, .of .alef)
  else if inRanges coengLetters code then (1, .of .khmerLetter)
  else if code = 0x1A10 then (1, .of (.ya false))
  else if inRanges tifinaghConsonants code then (1, .of (.tifinagh false))
  else if code = 0xA4FC ∨ code = 0xA4FD then (1, .of .lisuTone)
  else if code = 0x10C03 then (1, .of (.orkhonI false))
  else if code = 0x16D67 then (1, .of .kiratE)
  else if code = 0x16D68 then (1, .of .kiratAi)
  else if isRegion code then (1, .of .region)
  else if isTone code then (2, .of .tone)
  else if inRanges emojiShown code then (2, .of .emoji)
  else if code = 0x17D8 then (3, .plain)
  else if inRanges zeroWidth code then (0, .plain)
  else if inRanges wide code then (2, .plain)
  else (1, .plain)

/-- The width of a code point that forms a unit with what follows it, if it
does. -/
def jointWidth (code : Nat) : Shape → Option (Int × Following)
  | .alef =>
    if inRanges lams code then some (0, .plain)
    else if inRanges zeroWidth code && !inRanges joinBreaking code then some (0, .of .alef)
    else none
  | .lamed true => if code = 0x5D0 then some (0, .plain) else none
  | .khmerLetter => if code = 0x17D2 then some (-1, .plain) else none
  | .ya true => if code = 0x1A17 then some (0, .of .vowelYa) else none
  | .vowelYa => if code = 0x1A15 then some (0, .plain) else none
  | .tifinagh joined =>
    if code = 0x2D7F then some (1, .of .tifinaghJoiner)
    else if joined && inRanges tifinaghConsonants code then some (0, .plain)
    else none
  | .tifinaghJoiner => if inRanges tifinaghConsonants code then some (-1, .plain) else none
  | .lisuTone => if 0xA4F8 ≤ code ∧ code ≤ 0xA4FB then some (0, .plain) else none
  | .orkhonI true => if code = 0x10C32 then some (0, .plain) else none
  | .tone =>
    if inRanges toneBase code then some (0, .of .emoji)
    else if code = 0x200D then some (0, .of .joinedEmoji)
    else none
  | .region => if isRegion code then some (1, .of .regions) else none
  | .regions =>
    if isRegion code then some (1, .of .regions)
    else if code = 0x200D then some (0, .of .joinedEmoji)
    else none
  | .emoji => if code = 0x200D then some (0, .of .joinedEmoji) else none
  | .joinedEmoji =>
    if code = 0x20E3 then some (0, .of .joinedKeycap)
    else if isRegion code then some (1, .of .joinedRegion)
    else if isTone code then some (0, .of .tone)
    else if code = 0xE007F then some (0, .of (.tagLetters 0))
    else if (ownWidth code).2 = .of .emoji then some (0, .of .emoji)
    else none
  | .joinedRegion => if isRegion code then some (-1, .of .joinedEven) else none
  | .joinedEven =>
    if isRegion code then some (3, .of .joinedOdd)
    else if code = 0x200D then some (0, .of .joinedEmoji)
    else none
  | .joinedOdd =>
    if isRegion code then some (-1, .of .joinedEven)
    else if code = 0x200D then some (0, .of .joinedEmoji)
    else none
  | .tagLetters count =>
    if isTagLetter code ∧ count < 6 then some (0, .of (.tagLetters (count + 1)))
    else if isTagDigit code ∧ count < 5 then some (0, .of (.tagDigits 1))
    else if code = 0x1F3F4 ∧ 3 ≤ count then some (0, .of .emoji)
    else none
  | .tagDigits count =>
    if isTagDigit code ∧ count < 3 then some (0, .of (.tagDigits (count + 1)))
    else if code = 0x1F3F4 ∧ count = 3 then some (0, .of .emoji)
    else none
  | .kiratE =>
    if code = 0x16D63 ∨ code = 0x16D69 then some (0, .plain)
    else if code = 0x16D67 then some (0, .of .kiratAi)
    else if code = 0x16D68 then some (1, .of .kiratE)
    else none
  | .kiratAi => if code = 0x16D63 then some (0, .plain) else none
  | _ => none

/-- The width of a code point above `U+00A0` in front of something that may
change it. -/
def widthBefore (code : Nat) (f : Following) : Int × Following :=
  if f = .plain then ownWidth code
  else if code = 0xFE0F then (0, f.awaitEmoji)
  else if code = 0xFE0E then (0, f.awaitText)
  else if f.textSelector && inRanges textSelectable code then (1, .plain)
  else
    let f := if f.textSelector then f.dropText else f
    if f.shape.seesThrough && code = 0x200D then (0, { f with shape := f.shape.join })
    else if f.shape.seesThrough && inRanges ligatureTransparent code then (0, f)
    else (jointWidth code f.shape).getD (ownWidth code)

/-- What a character adds to the width of a text, given what follows it, and
what follows the next character to its left. -/
def measure (c : Char) (f : Following) : Int × Following :=
  let code := c.toNat
  if f.emojiSelector && inRanges emojiSelectable code then
    (if f.shape.joinsEmoji then 0 else 2, .of .emoji)
  else
    let f := if f.emojiSelector then f.dropEmoji else f
    if code ≤ 0xA0 then
      if c = '\n' then (0, .of .lineFeed)
      else if c = '\r' ∧ f = .of .lineFeed then (0, .plain)
      else (1, .plain)
    else widthBefore code f

/-- The columns taken by a text, and what it looks like to a character in
front of it. -/
def widthAndShape : List Char → Int × Following
  | [] => (0, .plain)
  | c :: rest =>
    let (columns, f) := widthAndShape rest
    let (add, g) := measure c f
    (columns + add, g)

/-- The number of terminal columns that a text takes. -/
def width (s : List Char) : Nat := (widthAndShape s).1.toNat

end SqlGuard.Text
