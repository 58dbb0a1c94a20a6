import Mathlib.Logic.Basic
import SqlGuard.Text.Width

/-!
# Widths that add up

A text is measured from its end, and what follows a character may change what it
adds. A blank or a mark of a grid always takes one column, and nothing to the
left of it is changed by what stands to its right: it is a `Stop`. So the width
of a text is the sum of the widths of its parts, if every part but the first one
begins with a stop.

Some characters give back a column that another one behind them has taken.
`Shape.floor` is the number of columns kept ready for them, so no text takes less
than none.

* `measure_solvent`, `floor_le_columns`: one step and a whole text keep the
  columns above the floor.
* `width_append`: the widths of the parts of a text add up.
-/
namespace SqlGuard.Text

/-! ## Columns to give back -/

/-- What a character in front of the shape may give back. -/
def Shape.floor : Shape → Int
  | .khmerLetter | .tifinaghJoiner | .joinedRegion | .joinedOdd => 1
  | _ => 0

theorem Shape.floor_nonneg (shape : Shape) : 0 ≤ shape.floor := by
  unfold floor
  split <;> decide

theorem Shape.floor_join (shape : Shape) : shape.join.floor = shape.floor := by
  cases shape <;> rfl

/-- Enough columns for one shape are enough for the next one. -/
def Solvent (shape : Shape) (r : Int × Following) : Prop := r.2.shape.floor ≤ shape.floor + r.1

theorem Solvent.of_nonneg {shape : Shape} {add : Int} {f : Following} (h : 0 ≤ add)
    (hf : f.shape.floor ≤ shape.floor) : Solvent shape (add, f) := by
  show f.shape.floor ≤ shape.floor + add
  omega

theorem Solvent.plain {shape : Shape} {add : Int} (h : 0 ≤ add) : Solvent shape (add, .plain) :=
  .of_nonneg h shape.floor_nonneg

theorem Solvent.mono {shape shape' : Shape} {r : Int × Following} (h : Solvent shape r)
    (hle : shape.floor ≤ shape'.floor) : Solvent shape' r := by
  unfold Solvent at h ⊢
  omega

/-- A character on its own takes the columns that may be given back. -/
theorem ownWidth_solvent (code : Nat) (shape : Shape) : Solvent shape (ownWidth code) := by
  have hown : (ownWidth code).2.shape.floor ≤ (ownWidth code).1 := by
    unfold ownWidth
    repeat' apply iteInduction (motive := fun r : Int × Following => r.2.shape.floor ≤ r.1) <;> intro
    all_goals decide
  have := shape.floor_nonneg
  unfold Solvent
  omega

theorem jointWidth_solvent {code : Nat} {shape : Shape} {r : Int × Following}
    (h : jointWidth code shape = some r) : Solvent shape r := by
  unfold jointWidth at h
  repeat' split at h
  all_goals cases h
  all_goals simp [Solvent, Shape.floor, Following.of, Following.plain]

/-- A selector keeps the shape behind it or makes it plain. -/
theorem Following.selected_floor {f g : Following}
    (h : g ∈ [f.awaitEmoji, f.awaitText, f.dropEmoji, f.dropText]) :
    g.shape.floor ≤ f.shape.floor := by
  have hshape : g.shape = f.shape ∨ g.shape = .plain := by
    simp only [List.mem_cons, List.not_mem_nil, or_false] at h
    rcases h with rfl | rfl | rfl | rfl
    · unfold awaitEmoji
      split <;> simp
    · unfold awaitText
      split <;> simp
    · unfold dropEmoji
      split <;> simp [Following.plain, Following.of]
    · unfold dropText
      split <;> simp [Following.plain, Following.of]
  rcases hshape with hshape | hshape
  · exact Int.le_of_eq (congrArg Shape.floor hshape)
  · rw [hshape]
    exact f.shape.floor_nonneg

theorem widthBefore_solvent (code : Nat) (f : Following) : Solvent f.shape (widthBefore code f) := by
  unfold widthBefore
  split
  · exact ownWidth_solvent code f.shape
  split
  · exact .of_nonneg (Int.le_refl _) (Following.selected_floor (by simp))
  split
  · exact .of_nonneg (Int.le_refl _) (Following.selected_floor (by simp))
  split
  · exact .plain (by decide)
  have hdrop : (if f.textSelector then f.dropText else f).shape.floor ≤ f.shape.floor := by
    split
    · exact Following.selected_floor (by simp)
    · exact Int.le_refl _
  dsimp only
  generalize (if f.textSelector then f.dropText else f) = g at hdrop
  refine Solvent.mono ?_ hdrop
  split
  · exact .of_nonneg (Int.le_refl _) (Int.le_of_eq g.shape.floor_join)
  split
  · exact .of_nonneg (Int.le_refl _) (Int.le_refl _)
  cases hj : jointWidth code g.shape with
  | some r => exact jointWidth_solvent hj
  | none => exact ownWidth_solvent code g.shape

/-- What one character adds keeps the columns above the floor. -/
theorem measure_solvent (c : Char) (f : Following) : Solvent f.shape (measure c f) := by
  unfold measure
  dsimp only
  split
  · refine .of_nonneg ?_ f.shape.floor_nonneg
    split <;> decide
  have hdrop : (if f.emojiSelector then f.dropEmoji else f).shape.floor ≤ f.shape.floor := by
    split
    · exact Following.selected_floor (by simp)
    · exact Int.le_refl _
  generalize (if f.emojiSelector then f.dropEmoji else f) = g at hdrop
  split
  · split
    · exact .of_nonneg (Int.le_refl _) f.shape.floor_nonneg
    split
    · exact .plain (Int.le_refl _)
    · exact .plain (by decide)
  · exact (widthBefore_solvent _ g).mono hdrop

theorem widthAndShape_cons (c : Char) (s : List Char) :
    widthAndShape (c :: s) = ((widthAndShape s).1 + (measure c (widthAndShape s).2).1,
      (measure c (widthAndShape s).2).2) :=
  rfl

theorem floor_le_columns (s : List Char) :
    (widthAndShape s).2.shape.floor ≤ (widthAndShape s).1 := by
  induction s with
  | nil => decide
  | cons c s ih =>
    have hstep := measure_solvent c (widthAndShape s).2
    unfold Solvent at hstep
    rw [widthAndShape_cons]
    dsimp only
    omega

/-- No text takes less than no columns. -/
theorem columns_nonneg (s : List Char) : 0 ≤ (widthAndShape s).1 :=
  Int.le_trans (Shape.floor_nonneg _) (floor_le_columns s)

theorem width_eq (s : List Char) : (width s : Int) = (widthAndShape s).1 :=
  Int.toNat_of_nonneg (columns_nonneg s)

/-! ## Stops -/

/-- A character of one column, whatever follows it, that changes nothing in front of it. -/
def Stop (c : Char) : Prop :=
  c.toNat ≤ 0xA0 ∧ inRanges emojiSelectable c.toNat = false ∧ c ≠ '\n' ∧ c ≠ '\r'

instance (c : Char) : Decidable (Stop c) := inferInstanceAs (Decidable (_ ∧ _ ∧ _ ∧ _))

theorem stop_marks : Stop ' ' ∧ Stop '|' ∧ Stop '+' ∧ Stop '-' ∧ Stop '=' := by
  decide +kernel

theorem Stop.measure {c : Char} (h : Stop c) (f : Following) : measure c f = (1, .plain) := by
  obtain ⟨hlow, hselect, hn, hr⟩ := h
  unfold Text.measure
  dsimp only
  rw [if_neg (by simp [hselect]), if_pos hlow, if_neg hn, if_neg fun h => hr h.1]

theorem Stop.widthAndShape {c : Char} (h : Stop c) (s : List Char) :
    widthAndShape (c :: s) = ((widthAndShape s).1 + 1, .plain) := by
  rw [widthAndShape_cons, h.measure]

theorem width_cons_stop {c : Char} (h : Stop c) (s : List Char) :
    width (c :: s) = width s + 1 := by
  have hs := width_eq s
  have hc := width_eq (c :: s)
  rw [h.widthAndShape] at hc
  omega

/-- In front of a stop, a text is measured as if nothing followed. -/
theorem widthAndShape_append_stop {c : Char} (h : Stop c) (s t : List Char) :
    widthAndShape (s ++ c :: t) =
      ((widthAndShape s).1 + (widthAndShape (c :: t)).1, (widthAndShape s).2) := by
  induction s with
  | nil =>
    rw [List.nil_append, h.widthAndShape, widthAndShape, Int.zero_add]
  | cons d s ih =>
    rw [List.cons_append, widthAndShape_cons d, ih, widthAndShape_cons d]
    dsimp only
    rw [Int.add_right_comm]

/-- The widths of two texts add up, if the second one begins with a stop or is empty. -/
theorem width_append {s t : List Char} (h : ∀ c ∈ t.head?, Stop c) :
    width (s ++ t) = width s + width t := by
  cases t with
  | nil => rw [List.append_nil]; rfl
  | cons c t =>
    have hs := width_eq s
    have ht := width_eq (c :: t)
    have hst := width_eq (s ++ c :: t)
    rw [widthAndShape_append_stop (h c rfl)] at hst
    omega

theorem width_replicate_stop {c : Char} (h : Stop c) (n : Nat) (s : List Char) :
    width (List.replicate n c ++ s) = n + width s := by
  induction n with
  | zero => simp
  | succ n ih =>
    rw [List.replicate_succ, List.cons_append, width_cons_stop h, ih]
    omega

end SqlGuard.Text
