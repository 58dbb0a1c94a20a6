/-!
# The parts of a text between marks

`splitAt` cuts a text at every mark. There is always one part more than there
are marks, and parts may be empty. Parts that were joined come apart again,
unless there are marks in them.
-/
namespace SqlGuard.Text

def splitAt (mark : Char) : List Char → List (List Char)
  | [] => [[]]
  | c :: rest =>
    match splitAt mark rest with
    | [] => [[c]]
    | part :: parts => if c = mark then [] :: part :: parts else (c :: part) :: parts

theorem length_splitAt (mark : Char) (s : List Char) :
    (splitAt mark s).length = s.count mark + 1 := by
  induction s with
  | nil => rfl
  | cons c rest ih =>
    rw [splitAt]
    split
    · rename_i h
      simp [h] at ih
    · rename_i part parts h
      rw [h] at ih
      by_cases hc : c = mark <;> simp_all

theorem splitAt_eq_splitOn (mark : Char) (s : List Char) : splitAt mark s = s.splitOn mark := by
  induction s with
  | nil => rfl
  | cons c rest ih =>
    obtain ⟨part, parts, hrest⟩ := List.exists_cons_of_ne_nil (List.splitOn_ne_nil mark rest)
    rw [splitAt, ih, List.splitOn_cons_eq_if_modifyHead, hrest]
    by_cases hc : c = mark <;> simp [hc]

theorem splitAt_intercalate {mark : Char} {parts : List (List Char)} (hne : parts ≠ [])
    (h : ∀ part ∈ parts, mark ∉ part) : splitAt mark ([mark].intercalate parts) = parts := by
  rw [splitAt_eq_splitOn]
  exact List.splitOn_intercalate mark h hne

/-- A mark in one of the parts gives one part more. -/
theorem length_splitAt_intercalate (mark : Char) {parts : List (List Char)} (hne : parts ≠ []) :
    (splitAt mark ([mark].intercalate parts)).length = parts.length + parts.flatten.count mark := by
  rw [length_splitAt]
  induction parts with
  | nil => exact absurd rfl hne
  | cons part parts ih =>
    cases parts with
    | nil => simp [Nat.add_comm]
    | cons next parts =>
      have hrest := ih (List.cons_ne_nil next parts)
      rw [List.intercalate_cons_cons, List.count_append, List.count_append, List.count_singleton_self,
        List.length_cons, List.flatten_cons, List.count_append]
      omega

end SqlGuard.Text
