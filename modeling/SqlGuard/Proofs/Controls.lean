import SqlGuard.Proofs.Alignment
import SqlGuard.Text.Split

/-!
# Control characters in grids

Of the two kinds of text in a grid only the cells are flattened: each control
character of a value is shown as a blank (`controls_cellText`), but the name of
a column is drawn as it is. So all control characters of a grid stand in its
header, and they are those of the names (`map_controls_lines`). A line break
among them cuts the header in two, and what is below it moves down.

* `render_breaks`: where the control characters of a grid stand, and how many
  lines it is drawn in.
* `expression_torn`: a grid that is drawn in more lines than it has.
-/
namespace SqlGuard.Grid

open Text

/-! ## Control characters of lines -/

/-- The control characters of a text, in their order. -/
def controls (text : List Char) : List Char := text.filter isControl

theorem controls_cellText (v : Value) : controls (cellText v) = [] :=
  List.filter_eq_nil_iff.mpr fun c hc => by simp [isControl_of_mem_cellText hc]

theorem controls_cellAt (row : List Value) (i : Nat) : controls (cellAt row i).text = [] := by
  cases hv : row[i]? with
  | none => rw [cellAt, hv]; rfl
  | some v =>
    rw [cellAt, hv]
    exact controls_cellText v

theorem controls_border {fill : Char} (h : isControl fill = false) (ws : List Nat) :
    controls (border fill ws) = [] := by
  have hplus : isControl '+' = false := by decide
  rw [controls, border, List.filter_cons_of_neg (by simp [hplus]), List.filter_flatMap,
    List.flatMap_eq_nil_iff]
  intro w _
  simp [h, hplus]

/-- Blanks and bars are no control characters, so those of a line are in its cells. -/
theorem controls_isLine {ws : List Nat} {cells : List Cell} {line : List Char}
    (h : IsLine ws cells line) : controls line = cells.flatMap fun cell => controls cell.text :=
  h.filter_eq (by decide) (by decide)

/-- The rows of a grid have no control characters, and neither have the borders below them. -/
theorem map_controls_rows {ws : List Nat} {n : Nat} {rows : List (List Value)}
    {body : List (List Char)} (h : List.Forall₂ (fun row line =>
      IsLine ws ((List.range n).map (cellAt row)) line) rows body) :
    (body.flatMap fun line => [line, border '-' ws]).map controls =
      List.replicate (2 * rows.length) [] := by
  induction h with
  | nil => rfl
  | @cons row line rows body hrow _ ih =>
    have hline : controls line = [] := by
      rw [controls_isLine hrow, List.flatMap_map, List.flatMap_eq_nil_iff]
      exact fun i _ => controls_cellAt row i
    have hthin := controls_border (show isControl '-' = false by decide) ws
    rw [List.flatMap_cons, List.map_append, ih, List.map_cons, List.map_cons, hline, hthin]
    rfl

/-- Only the header of a grid has control characters: those of the names of the columns. -/
theorem map_controls_lines {a : Answer} (h : a.columns ≠ []) :
    (lines a).map controls = [] :: (a.columns.flatMap fun c => controls c.name.toList) ::
      List.replicate (2 * a.rows.length + 1) [] := by
  obtain ⟨top, body, hlines, htop, hbody⟩ := lines_layout h
  have hheader : controls top = a.columns.flatMap fun c => controls c.name.toList := by
    rw [controls_isLine htop, headerOf, List.flatMap_map]
    rfl
  have hthin := controls_border (show isControl '-' = false by decide) (widthsOf a)
  have hthick := controls_border (show isControl '=' = false by decide) (widthsOf a)
  rw [hlines, layout, List.map_append, map_controls_rows hbody]
  simp only [List.map_cons, List.map_nil, hthin, hthick, hheader]
  rfl

/-! ## Line breaks -/

theorem count_controls (text : List Char) : (controls text).count '\n' = text.count '\n' :=
  List.count_filter (by decide)

/-- The line breaks within the lines of a grid are those in the names of its columns. -/
theorem count_flatten_lines {a : Answer} (h : a.columns ≠ []) :
    (lines a).flatten.count '\n' = (a.columns.flatMap fun c => c.name.toList).count '\n' := by
  have hnames : controls (lines a).flatten = controls (a.columns.flatMap fun c => c.name.toList) := by
    unfold controls
    rw [List.filter_flatten, List.filter_flatMap]
    change ((lines a).map controls).flatten = _
    rw [map_controls_lines h]
    simp [controls]
  rw [← count_controls, hnames, count_controls]

theorem toList_render (a : Answer) : (render a).toList = ['\n'].intercalate (lines a) := by
  rw [render, String.toList_intercalate, List.map_map]
  congr 1
  exact List.map_id'' (fun _ => String.toList_ofList) _

theorem lines_ne_nil {a : Answer} (h : a.columns ≠ []) : lines a ≠ [] := by
  rw [← List.length_pos_iff, length_lines h]
  omega

/-- Every line of a grid begins with the corner of a border or with a bar. -/
theorem head?_of_mem_lines {a : Answer} (h : a.columns ≠ []) {line : List Char}
    (hline : line ∈ lines a) : line.head? = some '+' ∨ line.head? = some '|' := by
  rcases mem_lines h hline with rfl | rfl | ⟨cells, fields, rfl, -⟩
  · exact .inl rfl
  · exact .inl rfl
  · exact .inr rfl

/-- A grid takes a line more for each line break in the name of a column. -/
theorem length_split_render {a : Answer} (h : a.columns ≠ []) :
    (splitAt '\n' (render a).toList).length =
      3 + 2 * a.rows.length + (a.columns.flatMap fun c => c.name.toList).count '\n' := by
  rw [toList_render, length_splitAt_intercalate '\n' (lines_ne_nil h), length_lines h,
    count_flatten_lines h]

/-- The lines of a drawn grid are those that it was made of just if no name has a line break. -/
theorem split_render_iff {a : Answer} (h : a.columns ≠ []) :
    splitAt '\n' (render a).toList = lines a ↔ ∀ c ∈ a.columns, '\n' ∉ c.name.toList := by
  have hnames : (a.columns.flatMap fun c => c.name.toList).count '\n' = 0 ↔
      ∀ c ∈ a.columns, '\n' ∉ c.name.toList := by
    rw [List.count_eq_zero, List.mem_flatMap]
    push Not
    rfl
  rw [← hnames]
  constructor
  · intro hsplit
    have hlength := length_split_render h
    rw [hsplit, length_lines h] at hlength
    omega
  · intro hzero
    rw [toList_render]
    refine splitAt_intercalate (lines_ne_nil h) fun line hline hmem => ?_
    rw [← count_flatten_lines h, List.count_eq_zero] at hzero
    exact hzero (List.mem_flatten_of_mem hline hmem)

/-- Only the header of a grid has control characters, and they are those of the names of its
columns. Each line begins with a corner or a bar. But a line break in a name gives the drawn grid
one line more, and its lines are those of the grid only without such breaks. -/
theorem render_breaks (a : Answer) (h : a.columns ≠ []) :
    ((lines a).map controls = [] :: (a.columns.flatMap fun c => controls c.name.toList) ::
      List.replicate (2 * a.rows.length + 1) []) ∧
    (∀ line ∈ lines a, line.head? = some '+' ∨ line.head? = some '|') ∧
    (splitAt '\n' (render a).toList).length =
      3 + 2 * a.rows.length + (a.columns.flatMap fun c => c.name.toList).count '\n' ∧
    (splitAt '\n' (render a).toList = lines a ↔ ∀ c ∈ a.columns, '\n' ∉ c.name.toList) :=
  ⟨map_controls_lines h, fun _ => head?_of_mem_lines h, length_split_render h, split_render_iff h⟩

/-- One row under the name of an expression that was written in two lines. -/
def expression : Answer := .table [⟨"a\nb", "INT"⟩] [[.int 1]]

theorem expression_breaks : expression.columns ≠ [] ∧
    (lines expression).map controls = [[], ['\n'], [], [], []] ∧
    (splitAt '\n' (render expression).toList).length = 6 := by
  have hcolumns : expression.columns ≠ [] := by decide
  obtain ⟨hcontrols, -, hlength, -⟩ := render_breaks expression hcolumns
  exact ⟨hcolumns, hcontrols, hlength⟩

/-- A grid is torn by a line break in the name of a column: a line of it has a control character,
it is drawn in more lines than it has, and one of them begins in the midst of the name. -/
theorem expression_torn : expression.columns ≠ [] ∧
    (∃ line ∈ lines expression, ∃ c ∈ line, isControl c = true) ∧
    (splitAt '\n' (render expression).toList).length ≠ 3 + 2 * expression.rows.length ∧
    ∃ line ∈ splitAt '\n' (render expression).toList,
      line.head? ≠ some '+' ∧ line.head? ≠ some '|' := by
  have hlines : lines expression = ["+----+", "| a\nb |", "+====+", "|  1 |", "+----+"].map
      String.toList := by decide +kernel
  have hsplit : splitAt '\n' (render expression).toList =
      ["+----+", "| a", "b |", "+====+", "|  1 |", "+----+"].map String.toList := by decide +kernel
  refine ⟨by decide, ⟨"| a\nb |".toList, ?_, '\n', by decide, by decide⟩, ?_,
    "b |".toList, ?_, by decide⟩
  · rw [hlines]
    decide
  · rw [hsplit]
    decide
  · rw [hsplit]
    decide

end SqlGuard.Grid
