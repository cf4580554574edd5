import ChartScript.Proofs.AxesPart
import ChartScript.Proofs.PlainScript

/-!
# What a script tells about its chart

Different texts may have one script, as names may be spelled in several ways and remarks are never
written. Whatever is drawn is told by the lines of the script: the shape and the indentation by the
first lines, and all others by the parts, since a plain line tells its form and what stands in its
places. So two charts with one script are drawn alike.
-/

namespace ChartScript

namespace Chart

/-- What an invocation draws: the codes of the axes and of the two series, and the style. -/
def drawing (entry : Plot × Axes) : String × String × String × LineStyle :=
  match entry.1.relation with
  | .plot x y => (entry.2.name.code, x.code, y.code, entry.1.lineStyle)

/-- Two charts are drawn alike, by scripts of one shape. -/
structure DrawnLike (chart other : Chart) : Prop where
  /-- The shapes of the scripts are the same. -/
  shape : chart.figure.style.shape = other.figure.style.shape
  /-- A function is indented in the same way. -/
  indent : chart.figure.style.shape = .function →
    chart.figure.style.indent = other.figure.style.indent
  /-- The figures have one size. -/
  size : chart.figure.size = other.figure.size
  /-- The axes have the same codes, in order. -/
  axes : chart.axesCodes = other.axesCodes
  /-- The axes stand in the same cells, or in none. -/
  placed : ∀ code ∈ chart.axesCodes, ∀ cell,
    chart.figure.grid.Holds cell code ↔ other.figure.grid.Holds cell code
  /-- The series have the same codes and, bit by bit, the same numbers, in order. -/
  series : chart.series.map (fun series => (series.name.code, series.values.map Binary64.toBits)) =
    other.series.map fun series => (series.name.code, series.values.map Binary64.toBits)
  /-- The same is drawn on the same axes in the same style, in order. -/
  drawings : chart.invocations.map drawing = other.invocations.map drawing

end Chart

namespace PlainLine

/-- The axes of a line about axes, with their cell if they have one. -/
def place? : PlainLine → Option (String × Option Cell)
  | .binding axes cell => some (axes.axesCode, some cell)
  | .looseBinding axes => some (axes.axesCode, none)
  | _ => none

/-- The series of a line that binds one, with its numbers. -/
def numbers? : PlainLine → Option (String × List Binary64)
  | .series name values => some (name.dataCode, values.map NumberLiteral.number)
  | _ => none

/-- What a line about drawing draws or would draw: axes, series and style. -/
def drawing? : PlainLine → Option (String × String × String × LineStyle)
  | .drawing axes x y style => some (axes.axesCode, x.dataCode, y.dataCode, style)
  | .looseDrawing axes x y style => some (axes.axesCode, x.dataCode, y.dataCode, style)
  | _ => none

/-- Lists whose items are written as the same lines agree on what is read from the lines. -/
theorem map_eq_map_of_read {α β γ : Type} {read : PlainLine → Option γ} {write : α → String}
    {write' : β → String} {f : α → γ} {g : β → γ}
    (reads : ∀ x, ∃ line : PlainLine, line.text = write x ∧ read line = some (f x))
    (reads' : ∀ y, ∃ line : PlainLine, line.text = write' y ∧ read line = some (g y))
    {xs : List α} {ys : List β} (same : xs.map write = ys.map write') : xs.map f = ys.map g := by
  induction xs generalizing ys with
  | nil => cases ys with
    | nil => rfl
    | cons y ys => cases same
  | cons x xs ih => cases ys with
    | nil => cases same
    | cons y ys =>
      obtain ⟨first, rest⟩ := List.cons.inj same
      obtain ⟨line, text, found⟩ := reads x
      obtain ⟨line', text', found'⟩ := reads' y
      have lines : line = line' := text_injective (text.trans (first.trans text'.symm))
      rw [lines, found', Option.some.injEq] at found
      rw [List.map_cons, List.map_cons, found, ih rest]

end PlainLine

namespace Chart

variable (chart : Chart)

/-- The line of axes tells their code and their cell, or that they have none. -/
theorem exists_place (axes : Axes) :
    ∃ line : PlainLine, line.text = (chart.axesLine axes.name).render ∧
      line.place? = some (axes.name.code, chart.cellOf? axes.name.code) := by
  cases place : chart.cellOf? axes.name.code with
  | some cell => exact ⟨.binding axes.name.word cell, (axesLine_of_cell place).symm, rfl⟩
  | none => exact ⟨.looseBinding axes.name.word, (axesLine_of_no_cell place).symm, rfl⟩

/-- The line of a series tells its code and its numbers. -/
theorem exists_numbers (series : Series) :
    ∃ line : PlainLine, line.text = (Line.bindSeries series).render ∧
      line.numbers? = some (series.name.code, series.values) := by
  obtain ⟨literals, numbers, text⟩ := exists_literals series.values
  refine ⟨.series series.name.word literals, ?_, ?_⟩
  · rw [Line.render_bindSeries, text]
    rfl
  · rw [PlainLine.numbers?, numbers, series.name.dataCode_word]

/-- The line of an invocation tells what is drawn. -/
theorem exists_drawing (entry : Plot × Axes) :
    ∃ line : PlainLine, line.text = (chart.drawLine entry.1 entry.2.name).render ∧
      line.drawing? = some (drawing entry) := by
  obtain ⟨plot, axes⟩ := entry
  obtain ⟨x, y, drawn⟩ := plot.relation.exists_plot
  have codes : drawing (plot, axes) = (axes.name.code, x.code, y.code, plot.lineStyle) := by
    rw [drawing, drawn]
  rw [codes]
  cases place : chart.cellOf? axes.name.code with
  | some cell =>
    exact ⟨.drawing axes.name.word x.word y.word plot.lineStyle,
      (drawLine_of_cell drawn place).symm, rfl⟩
  | none =>
    exact ⟨.looseDrawing axes.name.word x.word y.word plot.lineStyle,
      (drawLine_of_no_cell drawn place).symm, rfl⟩

variable {chart} {other : Chart}

/-- In a coherent chart, a cell holds a code exactly when it is the cell of the code. -/
theorem Coherent.holds_iff (coherent : chart.Coherent) {cell : Cell} {code : String} :
    chart.figure.grid.Holds cell code ↔ chart.cellOf? code = some cell :=
  ⟨coherent.cellOf?_eq_some, fun found => (Grid.cellOf?_first found).1⟩

/-- The axes of two charts with the same codes and cells in order have the same cells by code. -/
theorem cellOf?_eq_of_places
    (places : chart.axes.map (fun axes => (axes.name.code, chart.cellOf? axes.name.code)) =
      other.axes.map fun axes => (axes.name.code, other.cellOf? axes.name.code))
    {code : String} (listed : code ∈ chart.axesCodes) :
    chart.cellOf? code = other.cellOf? code := by
  obtain ⟨axes, found, rfl⟩ := List.mem_map.1 listed
  have entry := List.mem_map_of_mem
    (f := fun axes : Axes => (axes.name.code, chart.cellOf? axes.name.code)) found
  rw [places] at entry
  obtain ⟨axes', -, same⟩ := List.mem_map.1 entry
  obtain ⟨code, place⟩ := Prod.mk.inj same
  rw [← place, code]

/-- The blocks of a chart tell what is drawn. -/
theorem drawnLike_of_blockTexts (coherent : chart.Coherent) (coherent' : other.Coherent)
    (shape : chart.figure.style.shape = other.figure.style.shape)
    (indent : chart.figure.style.shape = .function →
      chart.figure.style.indent = other.figure.style.indent)
    (blocks : ∀ block, chart.blockTexts block = other.blockTexts block) :
    chart.DrawnLike other := by
  have places : chart.axes.map (fun axes => (axes.name.code, chart.cellOf? axes.name.code)) =
      other.axes.map fun axes => (axes.name.code, other.cellOf? axes.name.code) := by
    apply PlainLine.map_eq_map_of_read chart.exists_place other.exists_place
    rw [← axesTexts_eq, ← axesTexts_eq, blocks]
  have numbers : chart.series.map (fun series => (series.name.code, series.values)) =
      other.series.map fun series => (series.name.code, series.values) := by
    apply PlainLine.map_eq_map_of_read exists_numbers exists_numbers
    rw [← dataTexts_eq, ← dataTexts_eq, blocks]
  refine ⟨shape, indent, ?_, ?_, ?_, ?_, ?_⟩
  · have opened : [subplotsText chart.figure.size] = [subplotsText other.figure.size] :=
      blocks .figure
    exact PlainLine.subplotsText_injective (List.cons.inj opened).1
  · have codes := congrArg (List.map Prod.fst) places
    rw [List.map_map, List.map_map] at codes
    exact codes
  · intro code listed cell
    rw [coherent.holds_iff, coherent'.holds_iff, cellOf?_eq_of_places places listed]
  · have bits := congrArg (List.map fun entry => (entry.1, entry.2.map Binary64.toBits)) numbers
    rw [List.map_map, List.map_map] at bits
    exact bits
  · apply PlainLine.map_eq_map_of_read chart.exists_drawing other.exists_drawing
    rw [← plotTexts_eq, ← plotTexts_eq, blocks]

end Chart

namespace Script

variable {style style' : IndentStyle} {first : String} {rest rest' : List String}

/-- The first line of a body, the fourth one of a flat script, tells it from a script with a
function. -/
theorem lines_flat_ne_wrapped (filled : first ≠ "") :
    (flat (first :: rest)).lines ≠ (wrapped style (first :: rest')).lines := by
  intro same
  have fourth := congrArg (fun lines => lines[3]?) same
  rw [lines_flat, lines_wrapped] at fourth
  exact filled (Option.some.inj fourth)

/-- The first line of a body inside a function tells the indentation. -/
theorem style_of_lines_wrapped (filled : first ≠ "")
    (same : (wrapped style (first :: rest)).lines = (wrapped style' (first :: rest')).lines) :
    style = style' := by
  have sixth := congrArg (fun lines => lines[5]?) same
  rw [lines_wrapped, lines_wrapped, List.map_cons, List.map_cons, if_neg filled,
    if_neg filled] at sixth
  have units := (String.append_left_inj _).1 (Option.some.inj sixth)
  revert units
  cases style <;> cases style' <;> decide

/-- Scripts with the same lines have one shape, and one indentation if they have a function, when
their bodies start with the same line that is not empty. -/
theorem shape_of_lines_arrange {shape shape' : ScriptShape} (filled : first ≠ "")
    (same : (arrange shape style (first :: rest)).lines =
      (arrange shape' style' (first :: rest')).lines) :
    shape = shape' ∧ (shape = .function → style = style') := by
  cases shape with
  | procedure => cases shape' with
    | procedure => exact ⟨rfl, ScriptShape.noConfusion⟩
    | function => exact absurd same (lines_flat_ne_wrapped filled)
  | function => cases shape' with
    | procedure => exact absurd same.symm (lines_flat_ne_wrapped filled)
    | function => exact ⟨rfl, fun _ => style_of_lines_wrapped filled same⟩

end Script

/-- The bodies of charts start with the heading of the figure. -/
theorem Chart.exists_body_eq (chart : Chart) :
    ∃ rest, chart.body.map Line.render = "# Figure Definition" :: rest := by
  rw [map_render_body]
  exact ⟨_, rfl⟩

/-- Consistent charts with one script are drawn alike. -/
theorem ConsistentChart.drawnLike {checked other : ConsistentChart}
    (same : (checked.script .none).lines = (other.script .none).lines) :
    checked.chart.DrawnLike other.chart := by
  obtain ⟨rest, body⟩ := checked.chart.exists_body_eq
  obtain ⟨rest', body'⟩ := other.chart.exists_body_eq
  have lines (checked : ConsistentChart) : checked.script .none =
      Script.arrange checked.chart.figure.style.shape checked.chart.figure.style.indent
        (checked.chart.body.map Line.render) := rfl
  have heads := same
  rw [lines, lines, body, body'] at heads
  obtain ⟨shape, indent⟩ := Script.shape_of_lines_arrange (by decide) heads
  have outer : checked.outerLines .none = other.outerLines .none := by
    have unindented (checked : ConsistentChart) : checked.outerLines .none =
        (checked.script .none).outerLines checked.chart.figure.style.shape
          checked.chart.figure.style.indent := rfl
    rw [unindented, unindented, ← shape]
    cases kind : checked.chart.figure.style.shape with
    | procedure => exact same
    | function =>
      rw [indent kind]
      exact congrArg (List.map other.chart.figure.style.indent.outdent) same
  apply Chart.drawnLike_of_blockTexts checked.coherent other.coherent shape indent
  intro block
  rw [← checked.part_outerLines .none, outer, other.part_outerLines]

/-- Texts that are rendered, in their own style, with the same lines describe charts that are drawn
alike. -/
theorem Script.render_determines {text text' : String} {script script' : Script}
    (accepted : (render .none text).value = .ok script)
    (accepted' : (render .none text').value = .ok script') (same : script.lines = script'.lines) :
    ∃ checked checked', (ConsistentChart.ofText text).value = .ok checked ∧
      (ConsistentChart.ofText text').value = .ok checked' ∧
      checked.chart.DrawnLike checked'.chart := by
  obtain ⟨checked, described, rfl⟩ := render_value_eq_ok_iff.1 accepted
  obtain ⟨checked', described', rfl⟩ := render_value_eq_ok_iff.1 accepted'
  exact ⟨checked, checked', described, described', ConsistentChart.drawnLike same⟩

namespace Script

/-- The small text with another identifier, another name of its plot and a remark. -/
def renamedText : String :=
  "\x7b\"request_id\":\"1b4e28ba-2fa1-11d2-883f-0016d3cca428\",\"figure\":\x7b\"size\":" ++
  "\x7b\"row\":1,\"column\":1\x7d,\"axes\":[[\"a\"]]\x7d,\"axes\":[\x7b\"name\":\"a\"," ++
  "\"plot\":[\"q\"],\"style\":\x7b\"style_name\":\"r\"\x7d\x7d],\"plot\":[\x7b\"name\":\"q\"," ++
  "\"data\":\x7b\"relation\":\"plot\",\"x\":\"x\",\"y\":\"x\"\x7d\x7d]," ++
  "\"data\":[\x7b\"name\":\"x\",\"value\":[]\x7d]\x7d"

/-- The renamed text is rendered as the small script, too. -/
theorem render_renamedText : (render .none renamedText).value = .ok smallScript := by
  apply eq_ok_of_toOption
  decide +kernel

/-- The small text and the renamed one describe charts that are drawn alike. -/
theorem render_determines_smallText :
    (render .none smallText).value = .ok smallScript ∧
      (render .none renamedText).value = .ok smallScript ∧
      ∃ checked checked', (ConsistentChart.ofText smallText).value = .ok checked ∧
        (ConsistentChart.ofText renamedText).value = .ok checked' ∧
        checked.chart.DrawnLike checked'.chart :=
  ⟨render_smallText, render_renamedText,
    render_determines render_smallText render_renamedText rfl⟩

end Script

end ChartScript
