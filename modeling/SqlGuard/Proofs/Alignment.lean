import Mathlib.Algebra.GroupWithZero.Nat
import SqlGuard.Proofs.Drawing
import SqlGuard.Proofs.Measures

/-!
# Grids that line up

Every line of a grid takes the same number of columns on the screen: each field
is filled up with blanks to the width of its column, and blanks and bars part
the fields, so the widths of the texts add up whatever characters they are made
of (`IsLine.width_eq`). The width of a column is that of its widest text, also
where rows are shorter or longer than there are columns (`widths_column`).

* `lines_aligned`: the lines of the grid of an answer, and how wide they are.
-/
namespace SqlGuard.Grid

open Text

/-! ## Widths of columns -/

/-- The texts in a column: its name, and the cells of the rows that reach it. -/
def column (a : Answer) (i : Nat) : List (List Char) :=
  (a.columns[i]?.map fun c => c.name.toList).toList ++
    a.rows.filterMap fun row => row[i]?.map cellText

/-- The cell of a row in a column. A row that ends before has nothing there. -/
def cellAt (row : List Value) (i : Nat) : Cell :=
  match row[i]? with
  | some v => .ofValue v
  | none => .empty

/-- A row has a cell in every column and none behind the last one. -/
theorem cellsOf_eq (n : Nat) (row : List Value) :
    cellsOf n row = (List.range n).map (cellAt row) := by
  induction row generalizing n with
  | nil =>
    have hempty : cellAt [] = fun _ => Cell.empty := rfl
    rw [hempty, List.map_const', List.length_range]
    simp [cellsOf]
  | cons v row ih =>
    cases n with
    | zero => simp [cellsOf]
    | succ n =>
      have hfirst : cellsOf (n + 1) (v :: row) = Cell.ofValue v :: cellsOf n row := by
        simp [cellsOf]
      rw [hfirst, ih, List.range_succ_eq_map, List.map_cons, List.map_map]
      rfl

theorem length_cellsOf (n : Nat) (row : List Value) : (cellsOf n row).length = n := by
  rw [cellsOf_eq, List.length_map, List.length_range]

theorem getElem?_cellsOf {n i : Nat} (h : i < n) (row : List Value) :
    (cellsOf n row)[i]? = some (cellAt row i) := by
  rw [cellsOf_eq, List.getElem?_map, List.getElem?_range h]
  rfl

theorem mem_column {a : Answer} {i : Nat} {text : List Char} : text ∈ column a i ↔
    (∃ c, a.columns[i]? = some c ∧ c.name.toList = text) ∨
      ∃ row ∈ a.rows, ∃ v, row[i]? = some v ∧ cellText v = text := by
  simp [column, Option.map_eq_some_iff]

/-- A column gets wider only to take a text. -/
theorem widen_attained {ws : List Nat} {row : List Cell} {i w : Nat}
    (h : (widen ws row)[i]? = some w) :
    ws[i]? = some w ∨ ∃ cell, row[i]? = some cell ∧ width cell.text = w := by
  induction ws, row using widen.induct generalizing i with
  | case1 v ws cell cells ih =>
    rw [widen] at h
    cases i with
    | zero =>
      rw [List.getElem?_cons_zero, Option.some.injEq] at h ⊢
      rcases Nat.le_total v (width cell.text) with hle | hle
      · exact .inr ⟨cell, rfl, by rw [← h, Nat.max_eq_right hle]⟩
      · exact .inl (by rw [← h, Nat.max_eq_left hle])
    | succ i => exact ih h
  | case2 ws row hne =>
    rw [widen] at h
    · exact .inl h
    · exact hne

theorem foldl_widen_attained {ws : List Nat} {rows : List (List Cell)} {i w : Nat}
    (h : (rows.foldl widen ws)[i]? = some w) :
    ws[i]? = some w ∨ ∃ row ∈ rows, ∃ cell, row[i]? = some cell ∧ width cell.text = w := by
  induction rows generalizing ws with
  | nil => exact .inl h
  | cons row rows ih =>
    rcases ih h with hw | ⟨row', hr, hcell⟩
    · rcases widen_attained hw with hw | hcell
      · exact .inl hw
      · exact .inr ⟨row, List.mem_cons_self, hcell⟩
    · exact .inr ⟨row', List.mem_cons_of_mem _ hr, hcell⟩

theorem length_widths (header : List Cell) (rows : List (List Cell)) :
    (widths header rows).length = header.length := by
  have key (ws : List Nat) : (rows.foldl widen ws).length = ws.length := by
    induction rows generalizing ws with
    | nil => rfl
    | cons row rows ih => rw [List.foldl_cons, ih, length_widen]
  rw [widths, key, List.length_map]

/-- The header of the grid of an answer. -/
def headerOf (a : Answer) : List Cell := a.columns.map Cell.ofColumn

/-- The rows of the grid of an answer. -/
def bodyOf (a : Answer) : List (List Cell) := a.rows.map (cellsOf a.columns.length)

/-- The widths of the columns in the grid of an answer. -/
def widthsOf (a : Answer) : List Nat := widths (headerOf a) (bodyOf a)

theorem length_widthsOf (a : Answer) : (widthsOf a).length = a.columns.length := by
  rw [widthsOf, length_widths, headerOf, List.length_map]

theorem length_bodyOf {a : Answer} : ∀ row ∈ bodyOf a, row.length = (headerOf a).length := by
  intro row hr
  obtain ⟨values, -, rfl⟩ := List.mem_map.mp hr
  rw [length_cellsOf, headerOf, List.length_map]

theorem fits_at {ws : List Nat} {cells : List Cell} (h : List.Forall₂ Fits ws cells) {i w : Nat}
    {cell : Cell} (hw : ws[i]? = some w) (hc : cells[i]? = some cell) : width cell.text ≤ w := by
  obtain ⟨hi, rfl⟩ := List.getElem?_eq_some_iff.mp hw
  obtain ⟨hj, rfl⟩ := List.getElem?_eq_some_iff.mp hc
  exact h.get hi hj

/-- No text is wider than its column. -/
theorem width_le_widths {a : Answer} {i w : Nat} (hi : i < a.columns.length)
    (hw : (widthsOf a)[i]? = some w) {text : List Char}
    (ht : text ∈ column a i) : width text ≤ w := by
  have hfit := widths_fit (length_bodyOf (a := a))
  rcases mem_column.mp ht with ⟨c, hc, rfl⟩ | ⟨row, hr, v, hv, rfl⟩
  · have hcell : (headerOf a)[i]? = some (Cell.ofColumn c) := by
      rw [headerOf, List.getElem?_map, hc]
      rfl
    exact fits_at (hfit _ List.mem_cons_self) hw hcell
  · have hcell : (cellsOf a.columns.length row)[i]? = some (Cell.ofValue v) := by
      rw [getElem?_cellsOf hi, cellAt, hv]
    exact fits_at (hfit _ (List.mem_cons_of_mem _ (List.mem_map_of_mem hr))) hw hcell

/-- Every column is as wide as one of its texts. -/
theorem widths_attained {a : Answer} {i w : Nat} (hi : i < a.columns.length)
    (hw : (widthsOf a)[i]? = some w) : ∃ text ∈ column a i, width text = w := by
  have hcolumn : a.columns[i]? = some a.columns[i] := List.getElem?_eq_getElem hi
  have hname : a.columns[i].name.toList ∈ column a i :=
    mem_column.mpr (.inl ⟨_, hcolumn, rfl⟩)
  rcases foldl_widen_attained hw with hheader | ⟨cells, hcells, cell, hcell, hwidth⟩
  · rw [headerOf, List.map_map, List.getElem?_map, hcolumn] at hheader
    exact ⟨_, hname, Option.some.inj hheader⟩
  · obtain ⟨row, hr, rfl⟩ := List.mem_map.mp hcells
    rw [getElem?_cellsOf hi, Option.some.injEq] at hcell
    subst hcell
    cases hv : row[i]? with
    | some v =>
      rw [cellAt, hv] at hwidth
      exact ⟨_, mem_column.mpr (.inr ⟨row, hr, v, hv, rfl⟩), hwidth⟩
    | none =>
      -- an empty cell takes nothing, so neither does the name of the column
      rw [cellAt, hv] at hwidth
      have hzero : w = 0 := hwidth.symm
      have hle := width_le_widths hi hw hname
      exact ⟨_, hname, by omega⟩

/-- The columns of a grid are as wide as the widest of their texts. -/
theorem widths_column (a : Answer) {i : Nat} (hi : i < a.columns.length) :
    ((column a i).map width).max? = (widthsOf a)[i]? := by
  have hlength : i < (widthsOf a).length := by
    rwa [length_widthsOf]
  have hw := List.getElem?_eq_getElem hlength
  rw [hw, List.max?_eq_some_iff]
  constructor
  · obtain ⟨text, ht, hwidth⟩ := widths_attained hi hw
    exact List.mem_map.mpr ⟨text, ht, hwidth⟩
  · intro b hb
    obtain ⟨text, ht, rfl⟩ := List.mem_map.mp hb
    exact width_le_widths hi hw ht

/-! ## Widths of lines -/

/-- The width of a line over columns of these widths. -/
def lineWidth (ws : List Nat) : Nat := 1 + (ws.map (· + 3)).sum

theorem lineWidth_cons (w : Nat) (ws : List Nat) : lineWidth (w :: ws) = w + 3 + lineWidth ws := by
  unfold lineWidth
  rw [List.map_cons, List.sum_cons]
  omega

theorem border_width {fill : Char} (h : Stop fill) (ws : List Nat) :
    width (border fill ws) = lineWidth ws := by
  obtain ⟨-, -, hplus, -, -⟩ := stop_marks
  unfold border
  rw [width_cons_stop hplus]
  induction ws with
  | nil => rfl
  | cons w ws ih =>
    rw [List.flatMap_cons, List.append_assoc, width_replicate_stop h, List.singleton_append,
      width_cons_stop hplus, lineWidth_cons, ← ih]
    omega

/-- A field takes the width of its column, a blank on either side and a bar. -/
theorem Fields.width_eq {ws : List Nat} {cells : List Cell} {line : List Char}
    (h : Fields ws cells line) : width line + 1 = lineWidth ws := by
  obtain ⟨hblank, hbar, -, -, -⟩ := stop_marks
  induction h with
  | nil => rfl
  | @cons w ws cell cells rest left right hwidth _ _ ih =>
    have hstop : ∀ c ∈ (List.replicate right ' ' ++ ' ' :: '|' :: rest).head?, Stop c := by
      intro c hc
      cases right with
      | zero => cases hc; exact hblank
      | succ right => cases hc; exact hblank
    have hright : width (List.replicate right ' ' ++ ' ' :: '|' :: rest) =
        right + 2 + width rest := by
      rw [width_replicate_stop hblank, width_cons_stop hblank, width_cons_stop hbar]
      omega
    have hsplit : ' ' :: List.replicate left ' ' ++ cell.text ++ List.replicate right ' ' ++
        ' ' :: '|' :: rest = ' ' :: (List.replicate left ' ' ++
          (cell.text ++ (List.replicate right ' ' ++ ' ' :: '|' :: rest))) := by
      simp
    rw [hsplit, width_cons_stop hblank, width_replicate_stop hblank, width_append hstop, hright,
      lineWidth_cons, ← ih]
    omega

theorem IsLine.width_eq {ws : List Nat} {cells : List Cell} {line : List Char}
    (h : IsLine ws cells line) : width line = lineWidth ws := by
  obtain ⟨-, hbar, -, -, -⟩ := stop_marks
  obtain ⟨fields, rfl, hfields⟩ := h
  rw [width_cons_stop hbar, hfields.width_eq]

/-! ## Lines that line up -/

theorem mem_layout {ws : List Nat} {top line : List Char} {body : List (List Char)}
    (h : line ∈ layout ws top body) :
    line = border '-' ws ∨ line = border '=' ws ∨ line ∈ top :: body := by
  simp only [layout, List.mem_append, List.mem_cons, List.mem_flatMap, List.not_mem_nil,
    or_false] at h
  rcases h with (h | h | h) | ⟨line', hb, h | h⟩
  · exact .inl h
  · exact .inr (.inr (h ▸ List.mem_cons_self))
  · exact .inr (.inl h)
  · exact .inr (.inr (h ▸ List.mem_cons_of_mem _ hb))
  · exact .inl h

theorem length_layout (ws : List Nat) (top : List Char) (body : List (List Char)) :
    (layout ws top body).length = 3 + 2 * body.length := by
  have hbody : (body.flatMap fun line => [line, border '-' ws]).length = 2 * body.length := by
    induction body with
    | nil => rfl
    | cons line body ih =>
      rw [List.flatMap_cons, List.length_append, ih, List.length_cons]
      simp only [List.length_cons, List.length_nil]
      omega
  rw [layout, List.length_append, hbody]
  rfl

/-- The lines of a grid: borders, and the fields of the header and of every row. -/
theorem lines_layout {a : Answer} (h : a.columns ≠ []) :
    ∃ top body, lines a = layout (widthsOf a) top body ∧ IsLine (widthsOf a) (headerOf a) top ∧
      List.Forall₂ (fun row line =>
        IsLine (widthsOf a) ((List.range a.columns.length).map (cellAt row)) line) a.rows body := by
  obtain ⟨top, body, hdraw, htop, hbody⟩ := draw_layout (length_bodyOf (a := a))
  have hlines : lines a = draw (headerOf a) (bodyOf a) := if_neg (by simpa using h)
  refine ⟨top, body, hlines.trans hdraw, htop, ?_⟩
  exact (List.forall₂_map_left_iff.mp hbody).imp fun row line hline => cellsOf_eq _ row ▸ hline

theorem length_lines {a : Answer} (h : a.columns ≠ []) :
    (lines a).length = 3 + 2 * a.rows.length := by
  obtain ⟨top, body, hlines, -, hbody⟩ := lines_layout h
  rw [hlines, length_layout, hbody.length_eq]

/-- A grid has no lines but borders and lines of cells. -/
theorem mem_lines {a : Answer} (h : a.columns ≠ []) {line : List Char} (hline : line ∈ lines a) :
    line = border '-' (widthsOf a) ∨ line = border '=' (widthsOf a) ∨
      ∃ cells, IsLine (widthsOf a) cells line := by
  obtain ⟨top, body, hlines, htop, hbody⟩ := lines_layout h
  rw [hlines] at hline
  refine (mem_layout hline).imp_right (.imp_right fun hmem => ?_)
  rcases List.mem_cons.mp hmem with rfl | hmem
  · exact ⟨_, htop⟩
  · obtain ⟨i, hi, rfl⟩ := List.getElem_of_mem hmem
    exact ⟨_, hbody.get (hbody.length_eq ▸ hi) hi⟩

/-- The values that stand at the right of their columns. -/
theorem ofValue_atRight (v : Value) : (Cell.ofValue v).atRight = true ↔
    (∃ n, v = .int n) ∨ (∃ n, v = .uint n) ∨ (∃ x, v = .float x) ∨ ∃ text, v = .decimal text := by
  cases v <;> simp [Cell.ofValue, Value.isNumeric]

/-- Every line of the grid of an answer is as wide as the others. The columns are as wide as the
widest text in them, and the header and each row have one line, where every text stands in a field
as wide as its column, numbers at its right-hand side and all else at its left. A row that is too
short has empty fields, and what a row has beyond the last column is left out. -/
theorem lines_aligned (a : Answer) (h : a.columns ≠ []) :
    ∃ ws : List Nat, ws.length = a.columns.length ∧
      (∀ i, i < a.columns.length → ((column a i).map width).max? = ws[i]?) ∧
      (lines a).length = 3 + 2 * a.rows.length ∧
      (∀ line ∈ lines a, width line = 1 + (ws.map (· + 3)).sum) ∧
      (∃ top body, lines a = layout ws top body ∧ IsLine ws (a.columns.map Cell.ofColumn) top ∧
        List.Forall₂ (fun row line =>
          IsLine ws ((List.range a.columns.length).map (cellAt row)) line) a.rows body) ∧
      ∀ v, (Cell.ofValue v).atRight = true ↔ (∃ n, v = .int n) ∨ (∃ n, v = .uint n) ∨
        (∃ x, v = .float x) ∨ ∃ text, v = .decimal text := by
  obtain ⟨top, body, hlines, htop, hbody⟩ := lines_layout h
  obtain ⟨-, -, -, hminus, hequals⟩ := stop_marks
  refine ⟨widthsOf a, length_widthsOf a, fun i hi => widths_column a hi, length_lines h, ?_,
    ⟨top, body, hlines, htop, hbody⟩, ofValue_atRight⟩
  intro line hline
  rcases mem_lines h hline with rfl | rfl | ⟨cells, hcells⟩
  · exact border_width hminus _
  · exact border_width hequals _
  · exact hcells.width_eq

/-- A family in one sign, a row that is too long and one that is too short. -/
def ragged : Answer :=
  .table [⟨"名", "TEXT"⟩, ⟨"n", "INT"⟩]
    [[.string "👨‍👩‍👧!", .int 3, .string "x"], [.null]]

theorem ragged_aligned : ragged.columns ≠ [] ∧ (lines ragged).length = 7 ∧
    ∀ line ∈ lines ragged, width line = 12 := by
  have hcolumns : ragged.columns ≠ [] := by decide
  have hfirst : ((column ragged 0).map width).max? = some 4 := by decide +kernel
  have hsecond : ((column ragged 1).map width).max? = some 1 := by decide +kernel
  obtain ⟨ws, hlength, hwidths, hlines, hwidth, -⟩ := lines_aligned ragged hcolumns
  obtain ⟨w, w', rfl⟩ := List.length_eq_two.mp hlength
  have hw : w = 4 := Option.some.inj ((hwidths 0 (by decide)).symm.trans hfirst)
  have hw' : w' = 1 := Option.some.inj ((hwidths 1 (by decide)).symm.trans hsecond)
  subst hw hw'
  exact ⟨hcolumns, hlines, hwidth⟩

end SqlGuard.Grid
