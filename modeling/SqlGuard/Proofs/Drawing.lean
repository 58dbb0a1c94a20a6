import Mathlib.Data.List.Forall2
import SqlGuard.Screen

/-!
# How answers are shown

An answer is `WellFormed` if its count and its columns are those of its rows.
Such an answer is shown in just one of three forms. With rows, it is drawn as a
grid in which no cell gets lost: each row has one line, each cell of the row has
one field of the line, and the field holds the whole text of the cell.

* `draw_layout`: the lines of a grid, and what stands in them (`IsLine`).
* `outcome_opening`: the form of a text can be told from its first letters.
* `outcome_tabulates`: the text of an answer with rows.
-/
namespace SqlGuard

/-- The count and the columns are those of the rows, and a command has none. -/
structure Answer.WellFormed (a : Answer) : Prop where
  counted : a.rowCount = a.rows.length
  filled : ∀ row ∈ a.rows, row.length = a.columns.length
  headed : a.rows ≠ [] → a.columns ≠ []
  command : a.isCommand = true → a.columns = [] ∧ a.rows = []

namespace Grid

open Text

/-! ## Widths -/

/-- The text fits into the column. -/
def Fits (w : Nat) (cell : Cell) : Prop := width cell.text ≤ w

theorem length_widen (ws : List Nat) (row : List Cell) : (widen ws row).length = ws.length := by
  fun_induction widen ws row with
  | case1 w ws cell cells ih => simp [ih]
  | case2 => rfl

/-- What fits, fits still after one more row. -/
theorem fits_widen {ws : List Nat} {cells : List Cell} (h : List.Forall₂ Fits ws cells)
    (row : List Cell) : List.Forall₂ Fits (widen ws row) cells := by
  induction h generalizing row with
  | nil => cases row <;> exact .nil
  | cons hfit hrest ih =>
    cases row with
    | nil => exact .cons hfit hrest
    | cons cell row => exact .cons (Nat.le_trans hfit (Nat.le_max_left _ _)) (ih row)

/-- The columns are wide enough for the row that they were widened for. -/
theorem widen_fits {ws : List Nat} {row : List Cell} (h : row.length = ws.length) :
    List.Forall₂ Fits (widen ws row) row := by
  induction row generalizing ws with
  | nil =>
    obtain rfl := List.length_eq_zero_iff.mp h.symm
    exact .nil
  | cons cell row ih =>
    cases ws with
    | nil => cases h
    | cons w ws => exact .cons (Nat.le_max_right _ _) (ih (by simpa using h))

/-- Column by column, the widths of a grid suffice for its header and for all its rows. -/
theorem widths_fit {header : List Cell} {rows : List (List Cell)}
    (h : ∀ row ∈ rows, row.length = header.length) :
    ∀ cells ∈ header :: rows, List.Forall₂ Fits (widths header rows) cells := by
  have key (ws : List Nat) (rows : List (List Cell)) (hlen : ∀ row ∈ rows, row.length = ws.length) :
      (∀ cells, List.Forall₂ Fits ws cells → List.Forall₂ Fits (rows.foldl widen ws) cells) ∧
        ∀ row ∈ rows, List.Forall₂ Fits (rows.foldl widen ws) row := by
    induction rows generalizing ws with
    | nil => exact ⟨fun _ hfit => hfit, fun _ hr => absurd hr List.not_mem_nil⟩
    | cons first rows ih =>
      obtain ⟨hkeep, hrows⟩ := ih (widen ws first) fun row hr => by
        rw [length_widen]
        exact hlen row (List.mem_cons_of_mem _ hr)
      refine ⟨fun cells hfit => hkeep cells (fits_widen hfit first), fun row hr => ?_⟩
      rcases List.mem_cons.mp hr with rfl | hr
      · exact hkeep row (widen_fits (hlen row List.mem_cons_self))
      · exact hrows row hr
  have hheader : List.Forall₂ Fits (header.map fun cell => width cell.text) header := by
    rw [List.forall₂_map_left_iff, List.forall₂_same]
    exact fun _ _ => Nat.le_refl _
  obtain ⟨hkeep, hrows⟩ := key (header.map fun cell => width cell.text) rows (by simpa using h)
  intro cells hc
  rcases List.mem_cons.mp hc with rfl | hc
  · exact hkeep _ hheader
  · exact hrows cells hc

/-! ## Lines -/

/-- A line of fields, one for each cell: the whole text of the cell stands between a blank and a
blank with a bar, and blanks on one side of it fill the width of its column. -/
inductive Fields : List Nat → List Cell → List Char → Prop
  | nil : Fields [] [] []
  | cons {w : Nat} {ws : List Nat} {cell : Cell} {cells : List Cell} {rest : List Char}
      (left right : Nat) (hwidth : left + width cell.text + right = w)
      (hside : if cell.atRight then right = 0 else left = 0) (hrest : Fields ws cells rest) :
      Fields (w :: ws) (cell :: cells)
        (' ' :: List.replicate left ' ' ++ cell.text ++ List.replicate right ' ' ++
          ' ' :: '|' :: rest)

/-- A line of cells begins with a bar, and the fields of the cells follow it. -/
def IsLine (ws : List Nat) (cells : List Cell) (line : List Char) : Prop :=
  ∃ fields, line = '|' :: fields ∧ Fields ws cells fields

theorem cellLine_isLine {ws : List Nat} {cells : List Cell} (h : List.Forall₂ Fits ws cells) :
    IsLine ws cells (cellLine ws cells) := by
  refine ⟨_, rfl, ?_⟩
  induction h with
  | nil => exact .nil
  | @cons w cell ws cells hfit _ ih =>
    have hw : width cell.text ≤ w := hfit
    rw [List.zipWith_cons_cons, List.flatten_cons]
    have hw' : w - width cell.text + width cell.text = w := Nat.sub_add_cancel hw
    cases hr : cell.atRight with
    | true =>
      have hside : if cell.atRight then 0 = 0 else w - width cell.text = 0 := by simp [hr]
      have hcons := Fields.cons _ _ (show w - width cell.text + width cell.text + 0 = w from hw')
        hside ih
      simpa [field, hr] using hcons
    | false =>
      have hside : if cell.atRight then w - width cell.text = 0 else 0 = 0 := by simp [hr]
      have hcons := Fields.cons _ _ (show 0 + width cell.text + (w - width cell.text) = w by omega)
        hside ih
      simpa [field, hr] using hcons

/-- What is neither a blank nor a bar stands in a field in the order of the cells. -/
theorem Fields.filter_eq {ws : List Nat} {cells : List Cell} {line : List Char} {p : Char → Bool}
    (h : Fields ws cells line) (hblank : p ' ' = false) (hbar : p '|' = false) :
    line.filter p = cells.flatMap fun cell => cell.text.filter p := by
  induction h with
  | nil => rfl
  | cons left right _ _ _ ih => simp [hblank, hbar, ih]

theorem IsLine.filter_eq {ws : List Nat} {cells : List Cell} {line : List Char} {p : Char → Bool}
    (h : IsLine ws cells line) (hblank : p ' ' = false) (hbar : p '|' = false) :
    line.filter p = cells.flatMap fun cell => cell.text.filter p := by
  obtain ⟨fields, rfl, hf⟩ := h
  rw [List.filter_cons_of_neg (by simp [hbar]), hf.filter_eq hblank hbar]

/-- A line has no character that is not in its cells, but for blanks and bars. -/
theorem IsLine.not_mem {ws : List Nat} {cells : List Cell} {line : List Char} {c : Char}
    (h : IsLine ws cells line) (hc : ∀ cell ∈ cells, c ∉ cell.text) (hblank : c ≠ ' ')
    (hbar : c ≠ '|') : c ∉ line := by
  intro hline
  have hfilter := h.filter_eq (beq_false_of_ne hblank) (beq_false_of_ne hbar)
  have hmem : c ∈ cells.flatMap fun cell => cell.text.filter (c == ·) :=
    hfilter ▸ List.mem_filter.mpr ⟨hline, beq_self_eq_true c⟩
  obtain ⟨cell, hm, hcell⟩ := List.mem_flatMap.mp hmem
  exact hc cell hm (List.mem_filter.mp hcell).1

/-- The text of a value has no control characters. -/
theorem isControl_of_mem_cellText {v : Value} {c : Char} (hc : c ∈ cellText v) :
    isControl c = false := by
  obtain ⟨d, -, rfl⟩ := List.mem_map.mp hc
  by_cases hd : isControl d = true
  · rw [if_pos hd]
    decide
  · rw [if_neg hd]
    simpa using hd

theorem newline_not_mem_cellText (v : Value) : '\n' ∉ cellText v := fun h =>
  absurd (isControl_of_mem_cellText h) (by decide)

/-- A grid: a border, the header, a border, and one line with a border below for each row. -/
def layout (ws : List Nat) (top : List Char) (body : List (List Char)) : List (List Char) :=
  [border '-' ws, top, border '=' ws] ++ body.flatMap fun line => [line, border '-' ws]

theorem draw_layout {header : List Cell} {rows : List (List Cell)}
    (h : ∀ row ∈ rows, row.length = header.length) :
    let ws := widths header rows
    ∃ top body, draw header rows = layout ws top body ∧ IsLine ws header top ∧
      List.Forall₂ (IsLine ws) rows body := by
  intro ws
  have hfit := widths_fit h
  refine ⟨cellLine ws header, rows.map (cellLine ws), ?_, ?_, ?_⟩
  · rw [draw, layout, List.flatMap_map]
  · exact cellLine_isLine (hfit header List.mem_cons_self)
  · rw [List.forall₂_map_right_iff, List.forall₂_same]
    exact fun row hr => cellLine_isLine (hfit row (List.mem_cons_of_mem _ hr))

end Grid

namespace Screen

open Grid

/-! ## The forms of an answer -/

/-- How an answer may be shown: a command is confirmed, an answer without rows is noticed, and an
answer with rows is drawn. -/
inductive Form
  | confirmation
  | notice
  | grid
  deriving DecidableEq, Repr

/-- How the texts of a form begin. -/
def Form.opening : Form → String
  | confirmation => "Command executed successfully ("
  | notice => "Query OK, but no rows were returned ("
  | grid => "+"

/-- The form of an answer. -/
def Form.ofAnswer (a : Answer) : Form :=
  if a.isCommand then .confirmation else if a.rows.isEmpty then .notice else .grid

/-- No text begins in the way of two forms. -/
theorem Form.opening_injective {f g : Form} {text : List Char} (hf : f.opening.toList <+: text)
    (hg : g.opening.toList <+: text) : f = g := by
  have hhead (form : Form) (h : form.opening.toList <+: text) :
      text.head? = form.opening.toList.head? := by
    obtain ⟨rest, rfl⟩ := h
    cases form <;> rfl
  have heq := (hhead f hf).symm.trans (hhead g hg)
  revert heq
  cases f <;> cases g <;> decide

/-- The text of rows under columns: the lines of a grid that shows the columns at its top and each
row in a line of its own, and behind them the number of these lines. -/
def Tabulates (columns : List Column) (rows : List (List Value)) (elapsed : Elapsed)
    (text : String) : Prop :=
  ∃ ws top body, IsLine ws (columns.map Cell.ofColumn) top ∧
    List.Forall₂ (fun row line => IsLine ws (row.map Cell.ofValue) line ∧ '\n' ∉ line) rows body ∧
    text = "\n".intercalate ((layout ws top body).map String.ofList) ++ "\n" ++
      toString body.length ++ " row" ++ plural body.length ++ " returned (" ++
      toString elapsed.millis ++ "ms)"

/-- A row as long as there are columns has a cell for each of them. -/
theorem cellsOf_full {columns : Nat} {row : List Value} (h : row.length = columns) :
    cellsOf columns row = row.map Cell.ofValue := by
  rw [cellsOf, ← h, List.take_length, Nat.sub_self, List.replicate_zero, List.append_nil]

theorem outcome_tabulates {a : Answer} (h : a.WellFormed) (hcommand : a.isCommand = false)
    (hrows : a.rows ≠ []) (elapsed : Elapsed) :
    Tabulates a.columns a.rows elapsed (outcome a elapsed) := by
  have hcells : a.rows.map (cellsOf a.columns.length) = a.rows.map (List.map Cell.ofValue) :=
    List.map_congr_left fun row hr => cellsOf_full (h.filled row hr)
  have hlength : ∀ row ∈ a.rows.map (List.map Cell.ofValue),
      row.length = (a.columns.map Cell.ofColumn).length := by
    intro row hr
    obtain ⟨values, hv, rfl⟩ := List.mem_map.mp hr
    rw [List.length_map, List.length_map]
    exact h.filled values hv
  obtain ⟨top, body, hdraw, htop, hbody⟩ := draw_layout hlength
  rw [List.forall₂_map_left_iff] at hbody
  have hcount : a.rowCount = body.length := h.counted.trans hbody.length_eq
  have hbreak {ws : List Nat} {row : List Value} {line : List Char}
      (hl : IsLine ws (row.map Cell.ofValue) line) : '\n' ∉ line := by
    refine hl.not_mem (fun cell hc => ?_) (by decide) (by decide)
    obtain ⟨v, -, rfl⟩ := List.mem_map.mp hc
    exact newline_not_mem_cellText v
  have hlines : lines a =
      draw (a.columns.map Cell.ofColumn) (a.rows.map (List.map Cell.ofValue)) := by
    rw [lines, if_neg (by simpa using h.headed hrows), hcells]
  have hempty : ¬a.isEmpty = true := by simpa [Answer.isEmpty] using hrows
  refine ⟨_, top, body, htop, hbody.imp fun row line hl => ⟨hl, hbreak hl⟩, ?_⟩
  rw [outcome, if_neg (by simp [hcommand]), if_neg hempty, render, hlines, hdraw, hcount]
  simp only [String.append_assoc]

/-- An answer is shown in its form, and in no other. -/
theorem outcome_opening {a : Answer} (h : a.WellFormed) (elapsed : Elapsed) (form : Form) :
    form.opening.toList <+: (outcome a elapsed).toList ↔ form = Form.ofAnswer a := by
  have hown : (Form.ofAnswer a).opening.toList <+: (outcome a elapsed).toList := by
    unfold Form.ofAnswer
    by_cases hcommand : a.isCommand = true
    · rw [if_pos hcommand, outcome, if_pos hcommand]
      simp only [String.append_assoc, String.toList_append]
      exact List.prefix_append _ _
    · by_cases hrows : a.rows = []
      · rw [if_neg hcommand, if_pos (by simp [hrows]), outcome, if_neg hcommand,
          if_pos (by simp [Answer.isEmpty, hrows])]
        have hcolumns : "Query OK, but no rows were returned (columns: " =
            Form.notice.opening ++ "columns: " := by decide
        split
        · rw [String.toList_append]
          exact List.prefix_append _ _
        · rw [hcolumns]
          simp only [String.append_assoc, String.toList_append]
          exact List.prefix_append _ _
      · obtain ⟨ws, top, body, -, -, htext⟩ :=
          outcome_tabulates h (by simpa using hcommand) hrows elapsed
        rw [if_neg hcommand, if_neg (by simpa using hrows), htext, layout]
        simp only [List.cons_append, List.map_cons, String.intercalate_cons_cons,
          String.append_assoc, String.toList_append, String.toList_ofList]
        exact ⟨_, rfl⟩
  constructor
  · exact fun hform => Form.opening_injective hform hown
  · rintro rfl
    exact hown

end Screen

end SqlGuard
