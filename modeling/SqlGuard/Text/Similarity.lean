/-!
# How similar two words are

Two characters match if they are equal and stand near to each other. The
similarity of two words is the mean of three shares: the matched characters of
either word, and the matches that are in the same order in both.
-/
namespace SqlGuard.Text

/-- Takes away the first free character equal to `c` between two positions. The
characters of the other word are marked as taken or free. -/
def takeMatch (c : Char) (low high : Nat) : Nat → List (Char × Bool) → Option (List (Char × Bool))
  | _, [] => none
  | i, (d, taken) :: rest =>
    if low ≤ i && i ≤ high && !taken && c = d then some ((d, true) :: rest)
    else (takeMatch c low high (i + 1) rest).map ((d, taken) :: ·)

/-- The matched characters of the first word in their order, and the marks on
the second word. -/
def matchFrom (range : Nat) : Nat → List Char → List (Char × Bool) → List Char × List (Char × Bool)
  | _, [], marks => ([], marks)
  | i, c :: rest, marks =>
    match takeMatch c (i - range) (i + range) 0 marks with
    | some marks =>
      let (found, marks) := matchFrom range (i + 1) rest marks
      (c :: found, marks)
    | none => matchFrom range (i + 1) rest marks

/-- Between zero and one. -/
def similarity (a b : List Char) : Float :=
  let range := max a.length b.length / 2 - 1
  let (left, marks) := matchFrom range 0 a (b.map fun c => (c, false))
  let right := (marks.filter (·.2)).map (·.1)
  let outOfOrder := (left.zip right).countP fun (c, d) => c ≠ d
  let share (part whole : Nat) : Float := part.toFloat / whole.toFloat
  if a.isEmpty && b.isEmpty then 1
  else if left.isEmpty then 0
  else
    (share left.length a.length + share left.length b.length +
      share (left.length - outOfOrder / 2) left.length) / 3

/-- The most similar of some words, if it is similar at all. Of two equally
similar words it is the later one. -/
def mostSimilar (word : List Char) (candidates : List (List Char)) : Option (List Char) :=
  (candidates.foldl (fun best c =>
      let s := similarity word c
      match best with
      | some (t, _) => if t ≤ s then some (s, c) else best
      | none => if 0.7 < s then some (s, c) else none)
    none).map (·.2)

end SqlGuard.Text
