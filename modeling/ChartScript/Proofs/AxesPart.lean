import ChartScript.Proofs.PlotPart

/-!
# The grid in the axes part of a script

The axes part has one line for each axes of the chart, in order. Axes in a cell are bound to that
cell, and all others leave a remark. Nothing is looked up when a script is read: that the bindings
and the cells with a name answer to each other one by one, and that no binding reaches outside of
the subplots, rests on the coherence of the chart alone.
-/

namespace ChartScript

/-- The axes that a drawing starts with are told by its text. -/
theorem axes_of_drawingText {axes other : Identifier .axes} {x y style : String}
    (starts : (axes.code ++ ".").toList <+: (drawingText other.code x y style).toList) :
    axes.code = other.code := by
  obtain ⟨rest, same⟩ := starts
  simp only [drawingText, String.toList_append, List.append_assoc] at same
  obtain ⟨code, -⟩ := append_cons_inj_of_stop '.' (axes.not_mem_code (by decide))
    (other.not_mem_code (by decide)) same
  exact String.toList_inj.1 code

namespace Chart

variable {chart : Chart}

/-- The axes part of a script shows the grid of its chart, and nothing else of the script acts on
axes outside of the grid. -/
structure GridWritten (chart : Chart) (lines : List String) : Prop where
  /-- One line opens the figure with the declared size. -/
  opened : Script.part .figure lines = [subplotsText chart.figure.size]
  /-- Every cell that holds a name lies inside the declared size. -/
  inside : ∀ (cell : Cell) (name : Identifier .axes), chart.figure.grid.at? cell = some name →
    cell.row < chart.figure.size.rows ∧ cell.column < chart.figure.size.columns
  /-- There is a line for each axes. -/
  counted : (Script.part .axes lines).length = chart.axes.length
  /-- Axes in a cell are bound to it, at their index. -/
  bound : ∀ (i : Nat) (axes : Axes) (cell : Cell), chart.axes[i]? = some axes →
    chart.figure.grid.Holds cell axes.name.code →
      (Script.part .axes lines)[i]? = some (bindingText axes.name.code cell)
  /-- Axes without a cell leave a remark, at their index. -/
  loose : ∀ (i : Nat) (axes : Axes), chart.axes[i]? = some axes →
    (∀ cell, ¬ chart.figure.grid.Holds cell axes.name.code) →
      (Script.part .axes lines)[i]? = some (looseBindingText axes.name.code)
  /-- Every cell that holds a name is bound to it by one line. -/
  assigned : ∀ (cell : Cell) (name : Identifier .axes), chart.figure.grid.at? cell = some name →
    ∃! i : Nat, (Script.part .axes lines)[i]? = some (bindingText name.code cell)
  /-- Every line that does something binds a cell to the name in it. -/
  live : ∀ line ∈ Script.live (Script.part .axes lines), ∃ (cell : Cell) (name : Identifier .axes),
    chart.figure.grid.at? cell = some name ∧ line = bindingText name.code cell
  /-- No two lines bind one cell. -/
  apart : ∀ (i j : Nat) (cell : Cell) (axes other : Identifier .axes),
    (Script.part .axes lines)[i]? = some (bindingText axes.code cell) →
    (Script.part .axes lines)[j]? = some (bindingText other.code cell) → i = j
  /-- Axes without a cell have their remark in one line, and no line binds them. -/
  unbound : ∀ axes ∈ chart.axes, (∀ cell, ¬ chart.figure.grid.Holds cell axes.name.code) →
    (∃! i : Nat, (Script.part .axes lines)[i]? = some (looseBindingText axes.name.code)) ∧
      ∀ cell : Cell, bindingText axes.name.code cell ∉ Script.part .axes lines
  /-- No line that does something draws on axes without a cell. -/
  idle : ∀ axes ∈ chart.axes, (∀ cell, ¬ chart.figure.grid.Holds cell axes.name.code) →
    ∀ line ∈ Script.live (Script.part .plot lines),
      ¬ (axes.name.code ++ ".").toList <+: line.toList

/-- In a coherent chart, axes of one code are at one index. -/
theorem Coherent.axes_index_unique (coherent : chart.Coherent) {i j : Nat} {axes other : Axes}
    (found : chart.axes[i]? = some axes) (found' : chart.axes[j]? = some other)
    (same : axes.name.code = other.name.code) : i = j := by
  obtain ⟨hi, rfl⟩ := List.getElem?_eq_some_iff.1 found
  obtain ⟨hj, rfl⟩ := List.getElem?_eq_some_iff.1 found'
  have differ := List.pairwise_iff_getElem.1 coherent.axesDiffer
  rcases Nat.lt_trichotomy i j with less | equal | greater
  · exact absurd same (differ i j hi hj less)
  · exact equal
  · exact absurd same.symm (differ j i hj hi greater)

/-- The line of axes in a cell binds them to it. -/
theorem axesLine_of_cell {axes : Identifier .axes} {cell : Cell}
    (found : chart.cellOf? axes.code = some cell) :
    (chart.axesLine axes).render = bindingText axes.code cell := by
  rw [axesLine, found]
  exact Line.render_bindAxes axes cell

/-- The line of axes without a cell is a remark. -/
theorem axesLine_of_no_cell {axes : Identifier .axes} (none : chart.cellOf? axes.code = none) :
    (chart.axesLine axes).render = looseBindingText axes.code := by
  rw [axesLine, none]
  exact Line.render_looseAxes axes

/-- The line at an index of the axes block is that of the axes at the index. -/
theorem getElem?_axesTexts (chart : Chart) (i : Nat) :
    (chart.blockTexts .axes)[i]? =
      chart.axes[i]?.map fun axes => (chart.axesLine axes.name).render := by
  rw [axesTexts_eq, List.getElem?_map]

/-- In a coherent chart, the line of axes in a cell is at their index and binds them to it. -/
theorem Coherent.axesTexts_of_cell (coherent : chart.Coherent) {i : Nat} {axes : Axes} {cell : Cell}
    (found : chart.axes[i]? = some axes) (held : chart.figure.grid.Holds cell axes.name.code) :
    (chart.blockTexts .axes)[i]? = some (bindingText axes.name.code cell) := by
  rw [getElem?_axesTexts, found, Option.map_some,
    axesLine_of_cell (coherent.cellOf?_eq_some held)]

/-- The line of axes without a cell is at their index and is a remark. -/
theorem axesTexts_of_no_cell {i : Nat} {axes : Axes} (found : chart.axes[i]? = some axes)
    (nowhere : ∀ cell, ¬ chart.figure.grid.Holds cell axes.name.code) :
    (chart.blockTexts .axes)[i]? = some (looseBindingText axes.name.code) := by
  rw [getElem?_axesTexts, found, Option.map_some,
    axesLine_of_no_cell (Grid.cellOf?_eq_none_iff.2 nowhere)]

/-- The text of a binding is no remark. -/
theorem isRemark_bindingText (axes : Identifier .axes) (cell : Cell) :
    Script.isRemark (bindingText axes.code cell) = false := by
  rw [← Line.render_bindAxes, Line.isRemark_render]
  rfl

/-- What is left of a binding is a remark. -/
theorem isRemark_looseBindingText (axes : Identifier .axes) :
    Script.isRemark (looseBindingText axes.code) = true := by
  rw [← Line.render_looseAxes, Line.isRemark_render]
  rfl

/-- A line of the axes block that binds axes of a code to a cell is the line of axes with this code
in this cell. -/
theorem exists_axes_of_bindingText {i : Nat} {name : Identifier .axes} {cell : Cell}
    (line : (chart.blockTexts .axes)[i]? = some (bindingText name.code cell)) :
    ∃ axes, chart.axes[i]? = some axes ∧ axes.name.code = name.code ∧
      chart.figure.grid.Holds cell name.code := by
  rw [getElem?_axesTexts] at line
  obtain ⟨axes, found, text⟩ := Option.map_eq_some_iff.1 line
  cases place : chart.cellOf? axes.name.code with
  | none =>
    rw [axesLine_of_no_cell place] at text
    have remark := isRemark_looseBindingText axes.name
    rw [text, isRemark_bindingText] at remark
    cases remark
  | some cell' =>
    rw [axesLine_of_cell place] at text
    obtain ⟨same, rfl⟩ := bindingText_inj (axes.name.not_mem_code (by decide))
      (name.not_mem_code (by decide)) text
    exact ⟨axes, found, same, same ▸ (Grid.cellOf?_first place).1⟩

/-- A line of the axes block that is left of axes of a code is the line of axes with this code. -/
theorem exists_axes_of_looseBindingText {i : Nat} {name : Identifier .axes}
    (line : (chart.blockTexts .axes)[i]? = some (looseBindingText name.code)) :
    ∃ axes, chart.axes[i]? = some axes ∧ axes.name.code = name.code := by
  rw [getElem?_axesTexts] at line
  obtain ⟨axes, found, text⟩ := Option.map_eq_some_iff.1 line
  cases place : chart.cellOf? axes.name.code with
  | none =>
    rw [axesLine_of_no_cell place] at text
    exact ⟨axes, found, looseBindingText_inj (axes.name.not_mem_code (by decide))
      (name.not_mem_code (by decide)) text⟩
  | some cell =>
    rw [axesLine_of_cell place] at text
    have remark := isRemark_looseBindingText name
    rw [← text, isRemark_bindingText] at remark
    cases remark

/-- A line of the axes block that does something binds a cell to the name in it. -/
theorem exists_cell_of_live {line : String} (live : line ∈ Script.live (chart.blockTexts .axes)) :
    ∃ cell name, chart.figure.grid.at? cell = some name ∧ line = bindingText name.code cell := by
  obtain ⟨member, acts⟩ := List.mem_filter.1 live
  obtain ⟨i, found⟩ := List.mem_iff_getElem?.1 member
  rw [getElem?_axesTexts] at found
  obtain ⟨axes, -, rfl⟩ := Option.map_eq_some_iff.1 found
  cases place : chart.cellOf? axes.name.code with
  | none =>
    rw [axesLine_of_no_cell place, isRemark_looseBindingText] at acts
    cases acts
  | some cell =>
    obtain ⟨name, held, same⟩ := (Grid.cellOf?_first place).1
    exact ⟨cell, name, held, by rw [axesLine_of_cell place, same]⟩

end Chart

/-- A consistent chart is rendered, and the axes part of its script shows the grid of the chart:
bindings and cells that hold a name answer to each other one by one. -/
theorem ConsistentChart.grid_written (checked : ConsistentChart) (options : ScriptOptions) :
    ∃ script, (checked.render options).value = .ok script ∧
      checked.chart.GridWritten (script.outerLines
        (options.shapeFor checked.chart.figure.style)
        (options.indentFor checked.chart.figure.style)) := by
  have coherent := checked.coherent
  obtain ⟨script, rendered, parts⟩ := checked.exists_rendered options
  refine ⟨script, rendered, ?_⟩
  constructor
  · rw [parts]
    rfl
  · intro cell name held
    exact coherent.inside held
  · rw [parts, Chart.blockTexts, List.length_map]
    exact List.length_map _
  · intro i axes cell found held
    rw [parts]
    exact coherent.axesTexts_of_cell found held
  · intro i axes found nowhere
    rw [parts]
    exact Chart.axesTexts_of_no_cell found nowhere
  · intro cell name held
    rw [parts]
    obtain ⟨axes, member, same⟩ := coherent.cellsMet cell name held
    obtain ⟨i, found⟩ := List.mem_iff_getElem?.1 member
    refine ⟨i, same ▸ coherent.axesTexts_of_cell found ⟨name, held, same.symm⟩, fun j line => ?_⟩
    obtain ⟨other, found', same', -⟩ := Chart.exists_axes_of_bindingText line
    exact coherent.axes_index_unique found' found (same'.trans same.symm)
  · intro line live
    rw [parts] at live
    exact Chart.exists_cell_of_live live
  · intro i j cell axes other line line'
    rw [parts] at line line'
    obtain ⟨first, found, same, name, held, code⟩ := Chart.exists_axes_of_bindingText line
    obtain ⟨second, found', same', name', held', code'⟩ := Chart.exists_axes_of_bindingText line'
    rw [held] at held'
    cases held'
    exact coherent.axes_index_unique found found'
      (same.trans (code.symm.trans (code'.trans same'.symm)))
  · intro axes member nowhere
    rw [parts]
    obtain ⟨i, found⟩ := List.mem_iff_getElem?.1 member
    refine ⟨⟨i, Chart.axesTexts_of_no_cell found nowhere, fun j line => ?_⟩, fun cell member => ?_⟩
    · obtain ⟨other, found', same⟩ := Chart.exists_axes_of_looseBindingText line
      exact coherent.axes_index_unique found' found same
    · obtain ⟨j, line⟩ := List.mem_iff_getElem?.1 member
      obtain ⟨-, -, -, held⟩ := Chart.exists_axes_of_bindingText line
      exact nowhere cell held
  · intro axes member nowhere line live starts
    rw [parts] at live
    obtain ⟨plot, other, x, y, -, -, ⟨cell, held⟩, rfl⟩ := Chart.exists_drawing_of_live live
    rw [← axes_of_drawingText starts] at held
    exact nowhere cell held

end ChartScript
