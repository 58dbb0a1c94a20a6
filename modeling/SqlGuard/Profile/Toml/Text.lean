import SqlGuard.ConnectionString.Percent
import SqlGuard.Profile.Toml.Node

/-!
# Blanks, strings and keys of a TOML document

A reader gives what it read and the rest of the text, or nothing if the text
does not begin with what it reads.
-/
namespace SqlGuard.Profile.Toml

/-! ## Blanks -/

def isBlank (c : Char) : Bool := c = ' ' || c = '\t'

def skipBlanks (s : List Char) : List Char := s.dropWhile isBlank

/-- Characters that may stand in a comment. -/
def inComment (c : Char) : Bool := c = '\t' || (0x20 ≤ c.toNat && c.toNat ≠ 0x7F)

/-- A line break. -/
def newline : List Char → Option (List Char)
  | '\n' :: rest => some rest
  | '\r' :: '\n' :: rest => some rest
  | _ => none

/-- A line break or the end of the text. -/
def lineEnd (s : List Char) : Option (List Char) := if s = [] then some [] else newline s

/-- A comment, if there is one. -/
def skipComment : List Char → List Char
  | '#' :: rest => rest.dropWhile inComment
  | s => s

/-- What may stand behind a statement on its line. -/
def lineRest (s : List Char) : Option (List Char) := lineEnd (skipComment (skipBlanks s))

/-- Blanks, comments and line breaks. A comment has to end with a line break. -/
def skipLines : Nat → List Char → List Char
  | 0, s => s
  | fuel + 1, s =>
    let t := skipBlanks s
    match newline (skipComment t) with
    | some rest => skipLines fuel rest
    | none => t

/-! ## Strings -/

/-- Characters that stand for themselves between double quotes. -/
def inBasic (c : Char) : Bool :=
  c = '\t' || (0x20 ≤ c.toNat && c.toNat ≠ 0x7F && c ≠ '"' && c ≠ '\\')

/-- Characters that stand for themselves between single quotes. -/
def inLiteral (c : Char) : Bool :=
  c = '\t' || (0x20 ≤ c.toNat && c.toNat ≠ 0x7F && c ≠ '\x27')

/-- The character with a number in hexadecimal digits, unless it is half of a
pair or beyond the last one. -/
def hexChar (digits : List Char) : Option Char := do
  let values ← digits.mapM ConnectionString.hexValue
  let n := values.foldl (fun n d => 16 * n + d) 0
  if n.isValidChar then some (Char.ofNat n) else none

/-- The character behind a backslash. -/
def escape : List Char → Option (Char × List Char)
  | 'b' :: rest => some ('\x08', rest)
  | 'f' :: rest => some ('\x0c', rest)
  | 'n' :: rest => some ('\n', rest)
  | 'r' :: rest => some ('\r', rest)
  | 't' :: rest => some ('\t', rest)
  | '"' :: rest => some ('"', rest)
  | '\\' :: rest => some ('\\', rest)
  | 'u' :: a :: b :: c :: d :: rest => (hexChar [a, b, c, d]).map fun x => (x, rest)
  | 'U' :: a :: b :: c :: d :: e :: f :: g :: h :: rest =>
    (hexChar [a, b, c, d, e, f, g, h]).map fun x => (x, rest)
  | _ => none

/-- A string on one line, behind its double quote. -/
def basic : Nat → List Char → Option (List Char × List Char)
  | 0, _ => none
  | fuel + 1, s =>
    match s with
    | '"' :: rest => some ([], rest)
    | '\\' :: rest => do
      let (c, rest) ← escape rest
      let (text, rest) ← basic fuel rest
      some (c :: text, rest)
    | c :: rest =>
      if inBasic c then (basic fuel rest).map fun (text, rest) => (c :: text, rest) else none
    | [] => none

/-- A line break behind a backslash and blanks, with all blanks and line breaks
that follow. -/
def foldedBreak (s : List Char) : Option (List Char) :=
  (newline (skipBlanks s)).map (skip s.length)
where
  skip : Nat → List Char → List Char
    | 0, s => s
    | fuel + 1, s =>
      let t := skipBlanks s
      match newline t with
      | some rest => skip fuel rest
      | none => t

/-- A string on one line, behind its single quote. -/
def literal : List Char → Option (List Char × List Char)
  | [] => none
  | c :: rest =>
    if c = '\x27' then some ([], rest)
    else if inLiteral c then (literal rest).map fun (text, rest) => (c :: text, rest)
    else none

/-- The end of a string of several lines: three quotes, behind up to two that
still belong to it. -/
def stringEnd (quote : Char) (s : List Char) : Option (List Char × List Char) :=
  let n := ((s.take 5).takeWhile (· = quote)).length
  if n < 3 then none else some (List.replicate (n - 3) quote, s.drop n)

/-- A string of several lines, behind its three quotes. A piece of it may stand
for some characters or for none. -/
def multiline (quote : Char) (piece : List Char → Option (List Char × List Char)) :
    Nat → List Char → Option (List Char × List Char)
  | 0, _ => none
  | fuel + 1, s =>
    match stringEnd quote s with
    | some closed => some closed
    | none => do
      let (chars, rest) ← piece s
      let (text, rest) ← multiline quote piece fuel rest
      some (chars ++ text, rest)

/-- A line break, or a character that stands for itself. -/
def linePiece (itself : Char → Bool) (s : List Char) : Option (List Char × List Char) :=
  match newline s, s with
  | some rest, _ => some (['\n'], rest)
  | none, c :: rest => if itself c then some ([c], rest) else none
  | none, [] => none

/-- What stands between double quotes may begin with a backslash. -/
def basicPiece : List Char → Option (List Char × List Char)
  | '\\' :: rest =>
    match foldedBreak rest with
    | some rest => some ([], rest)
    | none => (escape rest).map fun (c, rest) => ([c], rest)
  | s => linePiece (fun c => inBasic c || c = '"') s

def basicLines : Nat → List Char → Option (List Char × List Char) := multiline '"' basicPiece

def literalLines : Nat → List Char → Option (List Char × List Char) :=
  multiline '\x27' (linePiece fun c => inLiteral c || c = '\x27')

/-- A line break right behind the opening quotes does not count. -/
def skipFirstBreak (s : List Char) : List Char := (newline s).getD s

/-- A string of any kind. -/
def string (s : List Char) : Option (String × List Char) :=
  let read := match s with
    | '"' :: '"' :: '"' :: rest => basicLines (s.length + 1) (skipFirstBreak rest)
    | '"' :: rest => basic (s.length + 1) rest
    | '\x27' :: '\x27' :: '\x27' :: rest => literalLines (s.length + 1) (skipFirstBreak rest)
    | '\x27' :: rest => literal rest
    | _ => none
  read.map fun (text, rest) => (String.ofList text, rest)

/-! ## Keys -/

def inBareKey (c : Char) : Bool := c.isAlphanum || c = '_' || c = '-'

/-- One part of a key. -/
def simpleKey (s : List Char) : Option (String × List Char) :=
  match s with
  | '"' :: rest => (basic (s.length + 1) rest).map fun (text, rest) => (String.ofList text, rest)
  | '\x27' :: rest => (literal rest).map fun (text, rest) => (String.ofList text, rest)
  | _ =>
    let name := s.takeWhile inBareKey
    if name = [] then none else some (String.ofList name, s.dropWhile inBareKey)

/-- The place of what was read, in a text of the given length: what is left
before and after tells where it stands. -/
def extent (length : Nat) (before after : List Char) : Extent :=
  ⟨length - before.length, length - after.length⟩

/-- Parts of a key between dots, with blanks around them. -/
def keyParts (length : Nat) : Nat → List Char → Option (List Key × List Char)
  | 0, _ => none
  | fuel + 1, s => do
    let s := skipBlanks s
    let (name, rest) ← simpleKey s
    let part : Key := ⟨name, extent length s rest⟩
    match skipBlanks rest with
    | '.' :: rest => do
      let (parts, rest) ← keyParts length fuel rest
      some (part :: parts, rest)
    | rest => some ([part], rest)

/-- Keys have fewer parts than this, and values are nested less deep. -/
def depthLimit : Nat := 80

def key (length : Nat) (s : List Char) : Option (List Key × List Char) :=
  (keyParts length (s.length + 1) s).filter fun (parts, _) => parts.length < depthLimit

end SqlGuard.Profile.Toml
