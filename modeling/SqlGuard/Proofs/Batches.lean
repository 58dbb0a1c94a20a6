import SqlGuard.Proofs.Keywords

/-!
# Statements of a batch

A text may hold several statements with semicolons between them, and a server
runs them all. The policy looks at the text as a whole: forbidden keywords are
found in every statement, but only the first statement has to begin well.

* `classify_batch`, `classify_statements`: a batch is admitted if and only if
  its first statement is, and no other one contains a forbidden keyword.
* `second_not_admitted`: a statement that the policy rejects by itself may stand
  behind the first one.
-/
namespace SqlGuard.Policy

open Text

theorem semicolon_not_mem_keyword {word : String} (hw : word ∈ allowed ++ forbidden) :
    ';' ∉ word.toList := fun h =>
  absurd (keyword_capital word hw ';' h) (by decide)

theorem capitals_batch (s t : List Char) : capitals (s ++ ';' :: t) =
    capitals s ++ ';' :: capitals t := by
  have hsemicolon : capital ';' = [';'] := by decide +kernel
  rw [capitals_append, capitals, capitals, capitals, List.flatMap_cons, hsemicolon]
  rfl

theorem toList_batch (first second : String) :
    (first ++ ";" ++ second).toList = first.toList ++ ';' :: second.toList := by
  simp

/-- A batch begins as its first statement does. -/
theorem beginsAllowed_batch (first second : String) :
    beginsAllowed (normalized (first ++ ";" ++ second)) = beginsAllowed (normalized first) := by
  rw [Bool.eq_iff_iff, beginsAllowed_normalized, beginsAllowed_normalized, toList_batch,
    trimStart_append_cons (by decide), capitals_batch]
  refine exists_congr fun word => and_congr_right fun hw => ?_
  exact prefix_append_cons (semicolon_not_mem_keyword (List.mem_append_left _ hw))

/-- A batch contains the keywords that its statements contain. -/
theorem firstForbidden_batch (first second : String) :
    firstForbidden (normalized (first ++ ";" ++ second)) = none ↔
      firstForbidden (normalized first) = none ∧ firstForbidden (normalized second) = none := by
  rw [firstForbidden_normalized, firstForbidden_normalized, firstForbidden_normalized,
    toList_batch, capitals_batch, ← forall₂_and]
  refine forall₂_congr fun word hw => ?_
  rw [infix_append_cons (semicolon_not_mem_keyword (List.mem_append_right _ hw)), not_or]

/-- A batch of two statements is admitted if and only if its first statement is, and its second one
contains no forbidden keyword: it is admitted by itself as well, or rejected only because it begins
with no allowed keyword. -/
theorem classify_batch (first second : String) :
    classify (first ++ ";" ++ second) = .admitted ↔ classify first = .admitted ∧
      (classify second = .admitted ∨ classify second = .rejected (.notReadOnly none)) := by
  rw [classify_admitted, classify_admitted, classify_clean, beginsAllowed_batch,
    firstForbidden_batch, and_assoc]

/-- Letters, digits, spaces and some marks: with no others in a text, each of its semicolons ends a
statement. -/
def isPlain (c : Char) : Bool := c.isAlphanum || " *,.=".toList.contains c

/-- An admitted batch of plain statements may have a statement that the policy rejects by itself:
one that asks the server to end another session. -/
theorem second_not_admitted : ¬∀ first second : String,
    (∀ c ∈ first.toList ++ second.toList, isPlain c = true) →
    (∃ c ∈ second.toList, isBlank c = false) →
    classify (first ++ ";" ++ second) = .admitted →
    classify first = .admitted ∧ classify second = .admitted := by
  intro h
  have hbatch : classify ("SELECT 1" ++ ";" ++ "KILL 5") = .admitted := by decide +kernel
  have hsecond : classify "KILL 5" = .rejected (.notReadOnly none) := by decide +kernel
  obtain ⟨-, hadmitted⟩ := h "SELECT 1" "KILL 5" (List.all_eq_true.mp (by decide))
    ⟨'K', by decide, by decide⟩ hbatch
  rw [hsecond] at hadmitted
  cases hadmitted

/-- A batch of any length is admitted if and only if its first statement is, and no other one
contains a forbidden keyword. -/
theorem classify_statements (first : String) (rest : List String) :
    classify (";".intercalate (first :: rest)) = .admitted ↔ classify first = .admitted ∧
      ∀ sql ∈ rest, firstForbidden (normalized sql) = none := by
  have key : beginsAllowed (normalized (";".intercalate (first :: rest))) =
        beginsAllowed (normalized first) ∧
      (firstForbidden (normalized (";".intercalate (first :: rest))) = none ↔
        ∀ sql ∈ first :: rest, firstForbidden (normalized sql) = none) := by
    induction rest generalizing first with
    | nil => exact ⟨rfl, by simp⟩
    | cons second rest ih =>
      obtain ⟨-, hclean⟩ := ih second
      rw [String.intercalate_cons_cons, beginsAllowed_batch, firstForbidden_batch, hclean,
        List.forall_mem_cons (a := first)]
      exact ⟨rfl, Iff.rfl⟩
  rw [classify_admitted, classify_admitted, key.1, key.2, List.forall_mem_cons, and_assoc]

end SqlGuard.Policy
