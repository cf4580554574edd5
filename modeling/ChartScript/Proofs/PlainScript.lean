import ChartScript.Proofs.Accepted
import ChartScript.Proofs.Mirror
import ChartScript.Proofs.PlainLine
import ChartScript.Proofs.Shapes

/-!
# Scripts are made of plain lines

Whatever an accepted text holds, it reaches the script through codes of identifiers, cells, number
literals and labels only. So every line of the script, without one unit of indentation that may
stand in front, is a plain line, of one form and with one filling of its places. Plain lines are
printable, and no line feed stands in one, so that the source of a script falls apart into the lines
it was built from.
-/

namespace ChartScript

namespace Identifier

variable {space : Namespace}

/-- The spelling of a name is not empty. -/
theorem underscored_ne_empty (name : Identifier space) : underscored name.raw ≠ "" := by
  intro empty
  have chars := congrArg String.toList empty
  rw [toList_underscored] at chars
  have nothing : name.raw = "" := String.toList_inj.1 (List.map_eq_nil_iff.1 chars)
  have safe := name.safe
  rw [nothing, Namespace.isSafe] at safe
  cases safe

/-- The word of a name, which stands behind the lead of the namespace in its code. -/
def word (name : Identifier space) : Word where
  text := underscored name.raw
  filled := name.underscored_ne_empty
  plain := by
    intro c member
    apply name.isIdentifierTail_of_mem_code c
    rw [code, Namespace.code, String.toList_append]
    exact List.mem_append_right _ member

/-- The code of a series is that of its word. -/
theorem dataCode_word (name : Identifier .data) : name.word.dataCode = name.code := rfl

end Identifier

/-- A size with rows and columns. -/
def GridSize.Positive (size : GridSize) : Prop := 0 < size.rows ∧ 0 < size.columns

/-- Every line of a body is a plain line, if the figure has rows and columns. -/
theorem Line.exists_plain (line : Line) (sized : ∀ size, line = .subplots size → size.Positive) :
    ∃ plain : PlainLine, plain.text = line.render := by
  cases line with
  | blank => exact ⟨.fixed "" (by decide), rfl⟩
  | heading block =>
    have listed : render (.heading block) ∈ Script.fixedLines := by
      cases block <;> decide
    exact ⟨.fixed _ listed, rfl⟩
  | subplots size =>
    obtain ⟨rows, columns⟩ := sized size rfl
    exact ⟨.figure size rows columns, rfl⟩
  | bindAxes axes cell => exact ⟨.binding axes.word cell, (render_bindAxes axes cell).symm⟩
  | looseAxes axes => exact ⟨.looseBinding axes.word, (render_looseAxes axes).symm⟩
  | bindSeries series =>
    obtain ⟨literals, -, text⟩ := exists_literals series.values
    refine ⟨.series series.name.word literals, ?_⟩
    rw [render_bindSeries, text]
    rfl
  | draw axes plot =>
    obtain ⟨x, y, drawn⟩ := plot.relation.exists_plot
    exact ⟨.drawing axes.word x.word y.word plot.lineStyle, (render_draw drawn).symm⟩
  | looseDraw axes plot =>
    obtain ⟨x, y, drawn⟩ := plot.relation.exists_plot
    exact ⟨.looseDrawing axes.word x.word y.word plot.lineStyle, (render_looseDraw drawn).symm⟩

/-- The figure of a chart is opened with its declared size. -/
theorem Chart.size_of_mem_body {chart : Chart} {size : GridSize}
    (member : Line.subplots size ∈ chart.body) : size = chart.figure.size := by
  obtain ⟨block, -, part⟩ := List.mem_flatMap.1 member
  rcases List.mem_append.1 part with head | last
  · rcases List.mem_cons.1 head with heading | inside
    · cases heading
    · cases block with
      | figure =>
        cases List.mem_singleton.1 inside
        rfl
      | axes =>
        obtain ⟨axes, -, line⟩ := List.mem_map.1 inside
        rw [axesLine] at line
        split at line <;> cases line
      | data =>
        obtain ⟨series, -, line⟩ := List.mem_map.1 inside
        cases line
      | plot =>
        obtain ⟨plot, -, drawn⟩ := List.mem_flatMap.1 inside
        obtain ⟨axes, -, line⟩ := List.mem_map.1 drawn
        rw [drawLine] at line
        split at line <;> cases line
  · cases List.mem_singleton.1 last

/-- A number that is read as positive is positive. -/
theorem Schema.readPositive_pos {value : Json} {n : Nat} (read : readPositive value = .ok n) :
    0 < n := by
  simp only [readPositive] at read
  split at read
  · next whole _ =>
    split at read
    · cases read
    · next large =>
      cases read
      exact Int.pos_iff_toNat_pos.1 (Int.not_le.1 large)
  · cases read

/-- The figure of a text has rows and columns. -/
theorem ConsistentChart.positive_size {text : String} {checked : ConsistentChart}
    (described : (ofText text).value = .ok checked) : checked.chart.figure.size.Positive := by
  obtain ⟨value, -, read⟩ := ofText_value_eq_ok_iff.1 described
  obtain ⟨members, -, -, ⟨figure, -, mirrored⟩, -⟩ :=
    Chart.reads_schema.1 (Chart.ofJson_eq_ok_iff.1 read)
  obtain ⟨parts, -, ⟨size, -, sized⟩, -⟩ := mirrored
  obtain ⟨counts, -, ⟨row, -, rows⟩, ⟨column, -, columns⟩⟩ := sized
  exact ⟨Schema.readPositive_pos rows, Schema.readPositive_pos columns⟩

namespace IndentStyle

/-- A line has one unit of indentation in front, or none is taken away. -/
theorem eq_or_eq_outdent (style : IndentStyle) (line : String) :
    line = style.unit ++ style.outdent line ∨ line = style.outdent line := by
  rw [outdent]
  split
  · next starts =>
    obtain ⟨rest, split⟩ := List.isPrefixOf_iff_prefix.1 starts
    left
    rw [← String.toList_inj, String.toList_append, String.toList_ofList, ← split,
      ← String.length_toList, List.drop_left]
  · exact .inr rfl

/-- A line without a blank in front has no indentation. -/
theorem outdent_eq_self (style : IndentStyle) {line : String} (space : line.toList.head? ≠ some ' ')
    (tab : line.toList.head? ≠ some '\t') : style.outdent line = line := by
  rw [outdent, if_neg]
  intro starts
  obtain ⟨rest, split⟩ := List.isPrefixOf_iff_prefix.1 starts
  rw [← split] at space tab
  cases style with
  | space => exact space rfl
  | tab => exact tab rfl

end IndentStyle

/-- Without its indentation, a line of a script is a line around the body or of the body. -/
theorem Script.outdent_mem {shape : ScriptShape} {style : IndentStyle} {body : List Line}
    {line : String} (member : line ∈ (arrange shape style (body.map Line.render)).lines) :
    style.outdent line ∈ opening shape ++ body.map Line.render ++ closing shape := by
  have outer := outerLines_arrange shape style (body.map Line.render)
  cases shape with
  | function =>
    rw [← outer]
    exact List.mem_map_of_mem member
  | procedure =>
    have lines : line ∈ opening .procedure ++ body.map Line.render ++ closing .procedure := by
      rw [← outer]
      exact member
    have fixed : ∀ line ∈ opening .procedure ++ closing .procedure,
        line.toList.head? ≠ some ' ' ∧ line.toList.head? ≠ some '\t' := by decide
    have unindented : style.outdent line = line := by
      rcases List.mem_append.1 lines with front | back
      · rcases List.mem_append.1 front with front | inside
        · obtain ⟨space, tab⟩ := fixed line (List.mem_append_left _ front)
          exact style.outdent_eq_self space tab
        · obtain ⟨line, -, rfl⟩ := List.mem_map.1 inside
          exact style.outdent_eq_self (line.head?_render_ne (.inl rfl))
            (line.head?_render_ne (.inr rfl))
      · obtain ⟨space, tab⟩ := fixed line (List.mem_append_right _ back)
        exact style.outdent_eq_self space tab
    rw [unindented]
    exact lines

/-- The lines around a body are fixed. -/
theorem Script.mem_fixedLines {shape : ScriptShape} {line : String}
    (member : line ∈ opening shape ∨ line ∈ closing shape) : line ∈ fixedLines := by
  have all : ∀ line ∈ opening shape ++ closing shape, line ∈ fixedLines := by
    cases shape <;> decide
  exact all line (List.mem_append.2 member)

namespace ConsistentChart

variable {checked : ConsistentChart} {options : ScriptOptions} {line : String}

/-- Without its indentation, a line of the script of a chart is a plain line. -/
theorem exists_plain (sized : checked.chart.figure.size.Positive)
    (member : line ∈ (checked.script options).lines) :
    ∃ plain : PlainLine,
      plain.text = (options.indentFor checked.chart.figure.style).outdent line := by
  rcases List.mem_append.1 (Script.outdent_mem member) with front | back
  · rcases List.mem_append.1 front with front | inside
    · exact ⟨.fixed _ (Script.mem_fixedLines (.inl front)), rfl⟩
    · obtain ⟨line, written, text⟩ := List.mem_map.1 inside
      rw [← text]
      apply line.exists_plain
      rintro size rfl
      rw [Chart.size_of_mem_body written]
      exact sized
  · exact ⟨.fixed _ (Script.mem_fixedLines (.inr back)), rfl⟩

/-- A line of the script of a chart is printable, apart from tabs. -/
theorem printable_line (sized : checked.chart.figure.size.Positive)
    (member : line ∈ (checked.script options).lines) :
    ∀ c ∈ line.toList, c = '\t' ∨ (' ' ≤ c ∧ c ≤ '~') := by
  obtain ⟨plain, text⟩ := exists_plain sized member
  have inner : ∀ c ∈ plain.text.toList, c = '\t' ∨ (' ' ≤ c ∧ c ≤ '~') :=
    fun c inside => .inr (plain.printable_text c inside)
  generalize options.indentFor checked.chart.figure.style = style at text
  rcases style.eq_or_eq_outdent line with indented | plain
  · have unit : (style.unit.toList.all fun c => decide (c = '\t' ∨ ' ' ≤ c ∧ c ≤ '~')) = true := by
      cases style <;> decide
    rw [indented, String.toList_append, ← text, List.forall_mem_append]
    exact ⟨fun c inside => of_decide_eq_true (List.all_eq_true.1 unit c inside), inner⟩
  · rw [plain, ← text]
    exact inner

end ConsistentChart

namespace Text

/-- The pieces of a text and those of what stands behind a mark. -/
theorem pieces_append_mark (mark : Char) (text rest : List Char) :
    pieces mark (text ++ mark :: rest) = pieces mark text ++ pieces mark rest := by
  induction text with
  | nil => simp [pieces]
  | cons c text ih =>
    obtain ⟨first, more, split⟩ := List.exists_cons_of_ne_nil (pieces_ne_nil mark text)
    by_cases same : c = mark
    · rw [List.cons_append, pieces, if_pos same, ih, pieces, if_pos same, List.cons_append]
    · rw [split, List.cons_append] at ih
      simp only [List.cons_append, pieces, if_neg same, ih, split]

/-- A text without the mark is its only piece. -/
theorem pieces_of_not_mem {mark : Char} {text : List Char} (clear : mark ∉ text) :
    pieces mark text = [text] := by
  induction text with
  | nil => rfl
  | cons c text ih =>
    rw [List.mem_cons, not_or] at clear
    rw [pieces, if_neg (Ne.symm clear.1), ih clear.2]

/-- No piece holds the mark. -/
theorem not_mem_of_mem_pieces {mark : Char} {text piece : List Char}
    (member : piece ∈ pieces mark text) : mark ∉ piece := by
  induction text generalizing piece with
  | nil =>
    rw [List.mem_singleton.1 member]
    exact List.not_mem_nil
  | cons c text ih =>
    obtain ⟨first, more, split⟩ := List.exists_cons_of_ne_nil (pieces_ne_nil mark text)
    rw [split] at ih
    by_cases same : c = mark
    · rw [pieces, if_pos same, split] at member
      rcases List.mem_cons.1 member with rfl | behind
      · exact List.not_mem_nil
      · exact ih behind
    · simp only [pieces, if_neg same, split] at member
      rcases List.mem_cons.1 member with rfl | behind
      · exact List.not_mem_cons_of_ne_of_not_mem (Ne.symm same) (ih List.mem_cons_self)
      · exact ih (List.mem_cons_of_mem _ behind)

/-- A line feed behind a text parts its lines from those of the rest. -/
theorem lines_append (text rest : String) :
    lines (text ++ "\n" ++ rest) = lines text ++ lines rest := by
  have chars : (text ++ "\n" ++ rest).toList = text.toList ++ '\n' :: rest.toList := by simp
  rw [lines, chars, pieces_append_mark, List.map_append, lines, lines]

/-- A text is its only line exactly when no line feed is in it. -/
theorem lines_eq_singleton_iff {row : String} : lines row = [row] ↔ '\n' ∉ row.toList := by
  rw [lines]
  constructor
  · intro alone
    have only : row.toList ∈ pieces '\n' row.toList := by
      obtain ⟨piece, single, same⟩ := List.map_eq_singleton_iff.1 alone
      rw [single, ← same, String.toList_ofList]
      exact List.mem_singleton_self piece
    exact not_mem_of_mem_pieces only
  · intro clear
    rw [pieces_of_not_mem clear, List.map_singleton, String.ofList_toList]

/-- Rows that are joined by line feeds fall apart into their lines. -/
theorem lines_joined {rows : List String} (some : rows ≠ []) :
    lines ("\n".intercalate rows) = rows.flatMap lines := by
  obtain ⟨row, rows, rfl⟩ := List.exists_cons_of_ne_nil some
  clear some
  induction rows generalizing row with
  | nil => rw [String.intercalate_singleton, List.flatMap_singleton]
  | cons next rows ih =>
    rw [String.intercalate_cons_cons, lines_append, ih next, ← List.flatMap_cons]

/-- Rows that are their own lines. -/
theorem flatMap_lines {rows : List String} (clear : ∀ row ∈ rows, '\n' ∉ row.toList) :
    rows.flatMap lines = rows := by
  induction rows with
  | nil => rfl
  | cons row rows ih =>
    obtain ⟨first, others⟩ := List.forall_mem_cons.1 clear
    rw [List.flatMap_cons, lines_eq_singleton_iff.2 first, ih others, List.singleton_append]

/-- Rows without line feeds, with one behind each, are the lines of a text up to the empty one at
its end. -/
theorem lines_intercalate (row : String) {rows : List String}
    (clear : ∀ line ∈ row :: rows, '\n' ∉ line.toList) :
    lines ("\n".intercalate (row :: rows) ++ "\n") = row :: rows ++ [""] := by
  have rest : lines "" = [""] := rfl
  rw [← String.append_empty (s := _ ++ "\n"), lines_append, lines_joined (List.cons_ne_nil _ _),
    flatMap_lines clear, rest]

/-- The pieces of a text, each with a mark behind it, are the text with one behind it. -/
theorem flatMap_pieces (mark : Char) (text : List Char) :
    (pieces mark text).flatMap (· ++ [mark]) = text ++ [mark] := by
  induction text with
  | nil => rfl
  | cons c text ih =>
    obtain ⟨first, more, split⟩ := List.exists_cons_of_ne_nil (pieces_ne_nil mark text)
    by_cases same : c = mark
    · rw [pieces, if_pos same, List.flatMap_cons, ih, same]
      rfl
    · rw [split, List.flatMap_cons] at ih
      simp only [pieces, if_neg same, split, List.flatMap_cons, List.cons_append, ih]

theorem unlines_cons (row : String) (rows : List String) :
    unlines (row :: rows) = row ++ "\n" ++ unlines rows := by
  simp [unlines]

/-- The lines of a text, each with a line feed behind it, are the text with one behind it. -/
theorem unlines_lines (text : String) : unlines (lines text) = text ++ "\n" := by
  apply String.toList_inj.1
  calc (unlines (lines text)).toList
    _ = (pieces '\n' text.toList).flatMap (· ++ ['\n']) := by
      simp [unlines, lines, String.toList_join, List.flatMap_map, Function.comp_def]
    _ = text.toList ++ ['\n'] := flatMap_pieces '\n' text.toList
    _ = (text ++ "\n").toList := by simp
end Text

namespace Script

/-- Every script has lines. -/
theorem lines_arrange_ne_nil (shape : ScriptShape) (style : IndentStyle) (body : List String) :
    (arrange shape style body).lines ≠ [] := by
  cases shape <;> exact List.cons_ne_nil _ _

/-- The lines of a rendered script are plain ones. Without one unit of indentation that may stand in
front, each line has one reading as a plain line. It is printable apart from tabs, and the source
falls apart at its line feeds into the lines and an empty rest. -/
theorem render_plain {options : ScriptOptions} {text : String} {script : Script}
    (accepted : (render options text).value = .ok script) :
    ∃ checked, (ConsistentChart.ofText text).value = .ok checked ∧
      (∀ line ∈ script.lines,
        (∃! plain : PlainLine,
          plain.text = (options.indentFor checked.chart.figure.style).outdent line) ∧
        ∀ c ∈ line.toList, c = '\t' ∨ (' ' ≤ c ∧ c ≤ '~')) ∧
      Text.lines script.source = script.lines ++ [""] := by
  obtain ⟨checked, described, rfl⟩ := render_value_eq_ok_iff.1 accepted
  have sized := ConsistentChart.positive_size described
  have printable : ∀ line ∈ (checked.script options).lines, ∀ c ∈ line.toList,
      c = '\t' ∨ (' ' ≤ c ∧ c ≤ '~') :=
    fun _ member => ConsistentChart.printable_line sized member
  refine ⟨checked, described, fun line member => ⟨?_, printable line member⟩, ?_⟩
  · obtain ⟨plain, text⟩ := ConsistentChart.exists_plain sized member
    exact ⟨plain, text, fun other same => PlainLine.text_injective (same.trans text.symm)⟩
  · have clear : ∀ line ∈ (checked.script options).lines, '\n' ∉ line.toList := by
      intro line member feed
      rcases printable line member '\n' feed with tab | range
      · cases tab
      · exact absurd range (by decide)
    obtain ⟨row, rows, split⟩ := List.exists_cons_of_ne_nil
      (lines_arrange_ne_nil (options.shapeFor checked.chart.figure.style)
        (options.indentFor checked.chart.figure.style) (checked.chart.body.map Line.render))
    have lines : (checked.script options).lines = row :: rows := split
    rw [lines] at clear ⊢
    rw [source, lines, Text.lines_intercalate row clear]

/-- The lines of the small script are plain ones. -/
theorem render_plain_smallText :
    (render .none smallText).value = .ok smallScript ∧
      ∃ checked, (ConsistentChart.ofText smallText).value = .ok checked ∧
        (∀ line ∈ smallScript.lines,
          (∃! plain : PlainLine,
            plain.text =
              (ScriptOptions.none.indentFor checked.chart.figure.style).outdent line) ∧
          ∀ c ∈ line.toList, c = '\t' ∨ (' ' ≤ c ∧ c ≤ '~')) ∧
        Text.lines smallScript.source = smallScript.lines ++ [""] :=
  ⟨render_smallText, render_plain render_smallText⟩

end Script

end ChartScript
