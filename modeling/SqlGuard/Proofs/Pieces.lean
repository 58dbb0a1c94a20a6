import SqlGuard.Proofs.Truncation
import SqlGuard.Text.Split

/-!
# Pieces of input

A session depends on the octets of its input and not on the chunks in which they
arrive (`Input.lines_congr`). The octets of a text are cut where the text is cut
(`Input.lines_of_decoded`), so a text at the prompt is a `dialogue` of its lines,
and every one of them can be read. Of other octets, each line that is no text is
met with a `complaint` and has no effect beyond it (`converse_malformed`).

* `runInteractive_pieces`: the same session for every delivery of the octets, the
  dialogue that a text is, and the session without the lines that are no text.
-/
namespace SqlGuard

open Text

/-! ## Lines of a text -/

theorem Text.not_mem_of_mem_splitAt {mark : Char} {s part : List Char}
    (h : part ∈ splitAt mark s) : mark ∉ part := by
  induction s generalizing part with
  | nil => simp_all [splitAt]
  | cons c rest ih =>
    rw [splitAt] at h
    split at h
    · rename_i hnil
      have := length_splitAt mark rest
      simp [hnil] at this
    · rename_i first parts hparts
      rw [hparts] at ih
      split at h
      · rcases List.mem_cons.mp h with rfl | h
        · exact List.not_mem_nil
        · exact ih h
      · rename_i hc
        rcases List.mem_cons.mp h with rfl | h
        · exact List.not_mem_cons_of_ne_of_not_mem (Ne.symm hc) (ih (.head _))
        · exact ih (.tail _ h)

/-- The lines of a text, each with its newline. What follows the last newline is a line if the
input ends by itself. -/
def textLines (ending : Ending) (text : String) : List String :=
  let parts := splitAt '\n' text.toList
  let whole := parts.dropLast.map fun part => String.ofList (part ++ ['\n'])
  let rest := String.ofList (parts.getLast?.getD [])
  if ending = .exhausted ∧ rest ≠ "" then whole ++ [rest] else whole

theorem newline_not_mem_encode {part : List Char} (h : '\n' ∉ part) :
    newline ∉ Utf8.encode part := by
  rw [← Utf8.encodeString_ofList]
  exact Utf8.newline_not_mem_encodeString (by rwa [String.toList_ofList])

theorem encode_line (part : List Char) :
    Utf8.encode (part ++ ['\n']) = Utf8.encode part ++ [newline] := List.flatMap_append

/-- Octets of parts without newlines, joined by newlines, are cut into these parts. -/
theorem cut_joined {parts : List (List Char)} {rest : List Char}
    (h : ∀ part ∈ parts ++ [rest], '\n' ∉ part) :
    Cut (Utf8.encode (['\n'].intercalate (parts ++ [rest])))
      (parts.map fun part => Utf8.encode (part ++ ['\n'])) (Utf8.encode rest) := by
  induction parts with
  | nil =>
    have hrest := newline_not_mem_encode (h rest (by simp))
    exact ⟨by simp, by simp, hrest⟩
  | cons part parts ih =>
    have hpart := newline_not_mem_encode (h part (by simp))
    have hrest := ih fun p hp => h p (List.mem_cons_of_mem part hp)
    have hjoin : ['\n'].intercalate (part :: parts ++ [rest]) =
        (part ++ ['\n']) ++ ['\n'].intercalate (parts ++ [rest]) := by
      obtain ⟨next, more, hmore⟩ := List.exists_cons_of_ne_nil (List.concat_ne_nil rest parts)
      rw [List.cons_append, hmore, List.intercalate_cons_cons, List.append_assoc]
    rw [hjoin, List.map_cons, Utf8.encode, List.flatMap_append]
    change Cut (Utf8.encode (part ++ ['\n']) ++ Utf8.encode _) _ _
    rw [encode_line]
    exact (Cut.line hpart).append hrest

/-- The octets of a text are cut where the text is cut. -/
theorem Input.lines_of_decoded {input : Input} {text : String}
    (h : Utf8.decodeString input.chunks.flatten = .ok text) :
    input.lines = (textLines input.ending text).map Utf8.encodeString := by
  let parts := splitAt '\n' text.toList
  have hne : parts ≠ [] := by
    rw [← List.length_pos_iff, length_splitAt]
    omega
  have hparts : parts.dropLast ++ [parts.getLast?.getD []] = parts := by
    rw [List.getLast?_eq_some_getLast hne, Option.getD_some, List.dropLast_concat_getLast]
  have hfree : ∀ part ∈ parts.dropLast ++ [parts.getLast?.getD []], '\n' ∉ part :=
    fun part hp => not_mem_of_mem_splitAt (hparts ▸ hp)
  have hcut := cut_joined hfree
  have htext : ['\n'].intercalate parts = text.toList := by
    show ['\n'].intercalate (splitAt '\n' text.toList) = _
    rw [splitAt_eq_splitOn, List.intercalate_splitOn]
  rw [hparts, htext] at hcut
  have hoctets : input.chunks.flatten = Utf8.encode text.toList :=
    (Utf8.decodeString_eq_ok_iff.mp h).symm
  have hrest : Utf8.encodeString (String.ofList (parts.getLast?.getD [])) ≠ [] ↔
      String.ofList (parts.getLast?.getD []) ≠ "" :=
    not_congr ⟨fun h => String.toList_inj.mp (Utf8.encode_injective h), fun h => by rw [h]; rfl⟩
  have hwhole : (parts.dropLast.map fun part => Utf8.encode (part ++ ['\n'])) =
      (parts.dropLast.map fun part => String.ofList (part ++ ['\n'])).map Utf8.encodeString := by
    rw [List.map_map]
    exact List.map_congr_left fun part _ => (Utf8.encodeString_ofList _).symm
  rw [Input.lines_of_cut (hoctets ▸ hcut), hwhole,
    ← Utf8.encodeString_ofList (parts.getLast?.getD [])]
  unfold textLines
  dsimp only
  by_cases hr : input.ending = .exhausted ∧ String.ofList (parts.getLast?.getD []) ≠ ""
  · rw [if_pos (hr.imp_right hrest.mpr), if_pos hr, List.map_append, List.map_singleton]
  · rw [if_neg (mt (And.imp_right hrest.mp) hr), if_neg hr]

/-- The lines of an input do not depend on the chunks. -/
theorem Input.lines_congr {input other : Input}
    (hoctets : other.chunks.flatten = input.chunks.flatten)
    (hending : other.ending = input.ending) : other.lines = input.lines := by
  have hcut := input.assembled_cut
  rw [Input.lines_of_cut hcut, Input.lines_of_cut (hoctets ▸ hcut), hending]

/-! ## Lines that are texts, and lines that are not -/

/-- The octets are a text. -/
def isText (line : List UInt8) : Bool := (Utf8.decodeString line).isOk

theorem isText_iff {line : List UInt8} :
    isText line = true ↔ ∃ text, Utf8.decodeString line = .ok text := by
  unfold isText
  cases Utf8.decodeString line <;> simp [Except.isOk, Except.toBool]

theorem not_isText_iff {line : List UInt8} :
    isText line = false ↔ ∃ malformed, Utf8.decodeString line = .error malformed := by
  unfold isText
  cases Utf8.decodeString line <;> simp [Except.isOk, Except.toBool]

/-- The input without the lines that are no text. -/
def Input.readable (input : Input) : Input := ⟨input.lines.filter isText, input.ending⟩

/-- Lines that are cut from octets stay lines if some of them are left out. -/
theorem Cut.filter {bytes rest : List UInt8} {lines : List (List UInt8)} (h : Cut bytes lines rest)
    (p : List UInt8 → Bool) : Cut (lines.filter p).flatten (lines.filter p) [] :=
  ⟨by simp, fun line hl => h.line_end line ((List.mem_filter.mp hl).1), by simp⟩

theorem Input.readable_lines (input : Input) :
    input.readable.lines = input.lines.filter isText := by
  obtain ⟨lines, rest, hcut⟩ : ∃ lines rest, Cut input.chunks.flatten lines rest :=
    ⟨_, _, input.assembled_cut⟩
  have hwhole : Cut (lines.filter isText).flatten (lines.filter isText) [] := hcut.filter isText
  have hlines := Input.lines_of_cut hcut
  by_cases hlast : input.ending = .exhausted ∧ rest ≠ []
  · rw [if_pos hlast] at hlines
    cases ht : isText rest with
    | true =>
      -- the rest is still open behind the whole lines
      have hfilter : input.lines.filter isText = lines.filter isText ++ [rest] := by
        rw [hlines, List.filter_append, List.filter_cons_of_pos ht, List.filter_nil]
      have hcut' : Cut input.readable.chunks.flatten (lines.filter isText) rest := by
        show Cut (input.lines.filter isText).flatten _ _
        rw [hfilter, List.flatten_concat]
        exact ⟨rfl, hwhole.line_end, hcut.rest_open⟩
      rw [Input.lines_of_cut hcut', hfilter]
      exact if_pos hlast
    | false =>
      have hfilter : input.lines.filter isText = lines.filter isText := by
        rw [hlines, List.filter_append, List.filter_cons_of_neg (by simp [ht]), List.filter_nil,
          List.append_nil]
      have hcut' : Cut input.readable.chunks.flatten (lines.filter isText) [] := by
        show Cut (input.lines.filter isText).flatten _ _
        rwa [hfilter]
      rw [Input.lines_of_cut hcut', hfilter]
      exact if_neg fun h => h.2 rfl
  · rw [if_neg hlast] at hlines
    have hcut' : Cut input.readable.chunks.flatten (lines.filter isText) [] := by
      show Cut (input.lines.filter isText).flatten _ _
      rwa [hlines]
    rw [Input.lines_of_cut hcut', hlines]
    exact if_neg fun h => h.2 rfl

namespace Session

open Act

variable {κ σ : Type} (s : Supplier κ σ) (e : Endpoint)

/-- Handles a line of a text. -/
def handleText (text : String) : Act κ σ Next :=
  match Command.ofLine text with
  | .blank => done .goOn
  | .leave => do
    say Screen.farewell
    done .stop
  | .help => do
    say Screen.help
    done .goOn
  | .query sql => do
    handleQuery s e sql
    say ""
    done .goOn

/-- Prompts for one line of a text after another and handles it. -/
def dialogue (ending : Ending) : List String → Act κ σ Unit
  | [] => do
    showPrompt
    endInput ending
  | text :: rest => do
    showPrompt
    match ← handleText s e text with
    | .stop => done ()
    | .goOn => dialogue ending rest

theorem handleLine_text (text : String) :
    handleLine s e (Utf8.encodeString text) = handleText s e text := by
  unfold handleLine
  rw [Utf8.decodeString_encodeString]
  rfl

/-- A conversation about the octets of texts is a dialogue. -/
theorem converse_texts (ending : Ending) (texts : List String) :
    converse s e ending (texts.map Utf8.encodeString) = dialogue s e ending texts := by
  induction texts with
  | nil => rfl
  | cons text rest ih =>
    rewrite [List.map_cons, converse, dialogue, handleLine_text, ih]
    rfl

/-- What happens at a line that is no text: a prompt, and a complaint about the octets. -/
def complaint (malformed : Utf8.Malformed) : List (Event κ) :=
  [.prompt, .flushed, .noted ⟨.warn, target, "Discarding input line: " ++ malformed.text⟩,
    .wrote (Utf8.encodeString
      ("Error: input line is not valid UTF-8 (" ++ malformed.text ++ ")" ++ "\n")),
    .wrote [newline]]

/-- A line that is no text has no effect beyond the complaint. -/
theorem converse_malformed (ending : Ending) {line : List UInt8} {malformed : Utf8.Malformed}
    (h : Utf8.decodeString line = .error malformed) (rest : List (List UInt8)) {desk : Desk κ σ}
    (ht : desk.terminal = .unlimited) :
    converse s e ending (line :: rest) desk =
      (converse s e ending rest desk).after (complaint malformed) := by
  have hround : round s e line desk = ⟨complaint malformed, .ok .goOn, desk⟩ := by
    obtain ⟨world, held, t⟩ := desk
    cases ht
    unfold round handleLine
    rw [h]
    rfl
  rw [converse_cons, bind_ok (congrArg Stage.result hround), hround]

/-- The first stage goes through the lines turn by turn, between an opening and a closing. A line
that is no text is met with a complaint. The second stage is the first one without the turns of such
lines. -/
structure Skips (opening : List (Event κ)) (lines : List (List UInt8))
    (full without : Stage κ σ Unit) : Prop where
  events : ∃ (turns : List (List UInt8 × List (Event κ))) (closing : List (Event κ)),
    full.events = opening ++ turns.flatMap Prod.snd ++ closing ∧
    without.events = opening ++ (turns.filter fun turn => isText turn.1).flatMap Prod.snd ++
      closing ∧
    turns.map Prod.fst = lines ∧
    ∀ turn ∈ turns, ∀ malformed, Utf8.decodeString turn.1 = .error malformed →
      turn.2 = complaint malformed
  result : without.result = full.result
  desk : without.desk = full.desk

namespace Skips

variable {opening : List (Event κ)} {lines : List (List UInt8)} {full without : Stage κ σ Unit}
  {line : List UInt8}

/-- What comes behind the last line is the closing. -/
theorem stop (stage : Stage κ σ Unit) : Skips [] [] stage stage :=
  ⟨⟨[], stage.events, rfl, rfl, rfl, fun _ h => absurd h List.not_mem_nil⟩, rfl, rfl⟩

theorem turn (h : Skips [] lines full without) (hline : isText line = true)
    (events : List (Event κ)) :
    Skips [] (line :: lines) (full.after events) (without.after events) := by
  obtain ⟨⟨turns, closing, hes, hes', hlines, hturns⟩, hresult, hdesk⟩ := h
  refine ⟨⟨(line, events) :: turns, closing, ?_, ?_, ?_, ?_⟩, hresult, hdesk⟩
  · rw [Stage.after, hes, List.flatMap_cons]
    simp only [List.nil_append, List.append_assoc]
  · rw [Stage.after, hes', List.filter_cons_of_pos (by exact hline), List.flatMap_cons]
    simp only [List.nil_append, List.append_assoc]
  · rw [List.map_cons, hlines]
  · intro turn hmem m hm
    rcases List.mem_cons.mp hmem with rfl | hmem
    · rw [not_isText_iff.mpr ⟨m, hm⟩] at hline
      cases hline
    · exact hturns turn hmem m hm

theorem malformed (h : Skips [] lines full without) {malformed : Utf8.Malformed}
    (hline : Utf8.decodeString line = .error malformed) :
    Skips [] (line :: lines) (full.after (complaint malformed)) without := by
  obtain ⟨⟨turns, closing, hes, hes', hlines, hturns⟩, hresult, hdesk⟩ := h
  have hskip : ¬isText line = true := by simp [not_isText_iff.mpr ⟨malformed, hline⟩]
  refine ⟨⟨(line, complaint malformed) :: turns, closing, ?_, ?_, ?_, ?_⟩, hresult, hdesk⟩
  · rw [Stage.after, hes, List.flatMap_cons]
    simp only [List.nil_append, List.append_assoc]
  · rwa [List.filter_cons_of_neg (by exact hskip)]
  · rw [List.map_cons, hlines]
  · intro turn hmem m hm
    rcases List.mem_cons.mp hmem with rfl | hmem
    · rw [hline] at hm
      cases hm
      rfl
    · exact hturns turn hmem m hm

theorem opened (h : Skips [] lines full without) (opening : List (Event κ)) :
    Skips opening lines (full.after opening) (without.after opening) := by
  obtain ⟨⟨turns, closing, hes, hes', hlines, hturns⟩, hresult, hdesk⟩ := h
  refine ⟨⟨turns, closing, ?_, ?_, hlines, hturns⟩, hresult, hdesk⟩
  · rw [Stage.after, hes, List.nil_append, List.append_assoc]
  · rw [Stage.after, hes', List.nil_append, List.append_assoc]

/-- What is done in any case is done at the same desk, and belongs to the closing. -/
theorem andThen {act act' final : Act κ σ Unit} {desk : Desk κ σ}
    (h : Skips opening lines (act desk) (act' desk)) :
    Skips opening lines (act.andThen final desk) (act'.andThen final desk) := by
  obtain ⟨⟨turns, closing, hes, hes', hlines, hturns⟩, hresult, hdesk⟩ := h
  refine ⟨⟨turns, closing ++ (final (act desk).desk).events, ?_, ?_, hlines, hturns⟩, hresult, ?_⟩
  · show (act desk).events ++ (final (act desk).desk).events = _
    rw [hes, List.append_assoc]
  · show (act' desk).events ++ (final (act' desk).desk).events = _
    rw [hes', hdesk, List.append_assoc]
  · show (final (act' desk).desk).desk = (final (act desk).desk).desk
    rw [hdesk]

end Skips

/-! ## Sessions -/

/-- At a terminal that never fails a line is a round, behind which the conversation goes on unless
the line asks to leave. -/
theorem converse_round (ending : Ending) (line : List UInt8) (rest : List (List UInt8))
    {desk : Desk κ σ} (ht : desk.terminal = .unlimited) :
    let turn := round s e line desk
    turn.desk.terminal = .unlimited ∧ converse s e ending (line :: rest) desk =
      ((if Line.leaves line then done () else converse s e ending rest) turn.desk).after
        turn.events := by
  intro turn
  have hp := round_plays s e line
  refine ⟨hp.terminal desk ht, ?_⟩
  rw [converse_cons, bind_ok (hp.result desk ht), nextOf]
  cases Line.leaves line <;> rfl

theorem converse_skips (ending : Ending) (lines : List (List UInt8)) {desk : Desk κ σ}
    (ht : desk.terminal = .unlimited) : Skips [] (handled lines)
      (converse s e ending lines desk) (converse s e ending (lines.filter isText) desk) := by
  induction lines generalizing desk with
  | nil => exact .stop _
  | cons line rest ih =>
    cases hline : isText line with
    | false =>
      obtain ⟨malformed, hm⟩ := not_isText_iff.mp hline
      have hleaves : Line.leaves line = false := by
        unfold Line.leaves
        rw [hm]
      rw [List.filter_cons_of_neg (by simp [hline]), converse_malformed s e ending hm rest ht,
        handled, hleaves]
      exact (ih ht).malformed hm
    | true =>
      obtain ⟨ht', hfull⟩ := converse_round s e ending line rest ht
      obtain ⟨-, hwithout⟩ := converse_round s e ending line (rest.filter isText) ht
      rw [List.filter_cons_of_pos hline, hfull, hwithout, handled]
      cases Line.leaves line with
      | true => exact (Skips.stop _).turn hline _
      | false => exact (ih ht').turn hline _

/-- A session does the same on every delivery of its octets. The octets of a text are the dialogue
of its lines, each of which can be read. Of any octets, a line that is no text is met with a
complaint, and the session is otherwise the one without such lines. At a terminal that fails, it is
what the terminal keeps of this, and closing the client. -/
theorem runInteractive_pieces (input : Input) :
    (∀ other : Input, other.chunks.flatten = input.chunks.flatten → other.ending = input.ending →
      runInteractive s e other = runInteractive s e input) ∧
    (∃ lines rest, Cut input.chunks.flatten lines rest ∧
      input.lines = if input.ending = .exhausted ∧ rest ≠ [] then lines ++ [rest] else lines) ∧
    (∀ text, Utf8.decodeString input.chunks.flatten = .ok text →
      (∀ line ∈ input.lines, isText line = true) ∧
      input.lines = (textLines input.ending text).map Utf8.encodeString ∧
      runInteractive s e input = (do
        say (Screen.banner e)
        dialogue s e input.ending (textLines input.ending text)).andThen (disconnect s)) ∧
    input.readable.lines = input.lines.filter isText ∧
    ∀ st : Standing κ σ,
      let full := runInteractive s e input (st.desk .unlimited)
      Skips [.wrote (Utf8.encodeString (Screen.banner e ++ "\n"))] (handled input.lines) full
        (runInteractive s e input.readable (st.desk .unlimited)) ∧
      ∀ t, ∃ last, (runInteractive s e input (st.desk t)).events = t.kept full.events ++ last ∧
        ∀ ev ∈ last, ev.Closing := by
  refine ⟨fun other hoctets hending => ?_, ⟨_, _, input.assembled_cut,
    Input.lines_of_cut input.assembled_cut⟩, fun text h => ?_, input.readable_lines, fun st => ?_⟩
  · unfold runInteractive
    rw [Input.lines_congr hoctets hending, hending]
  · have hlines := Input.lines_of_decoded h
    refine ⟨fun line hl => ?_, hlines, ?_⟩
    · rw [hlines] at hl
      obtain ⟨text, -, rfl⟩ := List.mem_map.mp hl
      exact isText_iff.mpr ⟨text, Utf8.decodeString_encodeString text⟩
    · unfold runInteractive
      rw [hlines, converse_texts]
  · intro full
    have hbody (input : Input) : body s e input (st.desk .unlimited) =
        (converse s e input.ending input.lines (st.desk .unlimited)).after
          (say (Screen.banner e) (st.desk .unlimited)).events :=
      bind_ok rfl
    constructor
    · have hskips : Skips [.wrote (Utf8.encodeString (Screen.banner e ++ "\n"))]
          (handled input.lines) (body s e input (st.desk .unlimited))
          (body s e input.readable (st.desk .unlimited)) := by
        rw [hbody, hbody, input.readable_lines]
        exact (converse_skips s e input.ending input.lines rfl).opened _
      exact hskips.andThen
    · intro t
      obtain ⟨closing, hkept, hclosing, -, -⟩ := run_kept s e (.interactive input) st t
      exact ⟨closing, hkept, hclosing⟩

end Session

end SqlGuard
