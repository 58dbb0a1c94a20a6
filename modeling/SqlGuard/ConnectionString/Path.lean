import SqlGuard.ConnectionString.Address

/-!
# Paths

A path is a list of segments behind slashes. A segment of one dot stands for
nothing, and one of two dots takes the segment before it away, unless that one
is a drive letter.
-/
namespace SqlGuard.ConnectionString

open SqlGuard.Text

/-- The dots of a segment, where an encoded one counts as well. -/
def unescapeDots : List Char → List Char
  | '%' :: '2' :: 'e' :: rest | '%' :: '2' :: 'E' :: rest => '.' :: unescapeDots rest
  | c :: rest => c :: unescapeDots rest
  | [] => []

def isSingleDot (segment : List Char) : Bool := unescapeDots segment = ['.']

def isDoubleDot (segment : List Char) : Bool := unescapeDots segment = ['.', '.']

def isDriveLetter : List Char → Bool
  | [letter, mark] => letter.isAlpha && (mark = ':' || mark = '|')
  | _ => false

/-- Takes the last segment away. The latest segment stands first. -/
def leave : List (List Char) → List (List Char)
  | [] => []
  | segment :: rest => if isDriveLetter segment then segment :: rest else rest

/-- The segments behind which a slash stands, the latest first, and the last
one. -/
def walk (behind : List (List Char)) : List (List Char) → List (List Char) × List Char
  | [] => (behind, [])
  | [last] =>
    if isDoubleDot last then (leave behind, [])
    else if isSingleDot last then (behind, [])
    else (behind, last)
  | segment :: rest =>
    if isDoubleDot segment then walk (leave behind) rest
    else if isSingleDot segment then walk behind rest
    else walk (segment :: behind) rest

/-- The path of a text that begins with a slash. -/
def normalPath (text : List Char) : List Char :=
  let segments := (splitAt '/' (text.drop 1)).map (percentEncode keptInPath)
  let (behind, last) := walk [] segments
  '/' :: (behind.reverse.flatMap (· ++ ['/']) ++ last)

end SqlGuard.ConnectionString
