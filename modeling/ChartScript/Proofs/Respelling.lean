import ChartScript.Proofs.AxesPart
import Mathlib.Data.List.Forall2

/-!
# Charts that differ in spelling

A chart may be respelled: names keep their codes, plots and the references to them get new codes by
one renaming, and identifiers and remarks may be any. All rules and all lines go by codes, and no
code of a plot is written. So as long as the renaming keeps different plot codes apart, a chart and
its respelling are both consistent or both not, and the parts of their scripts are the same.
-/

namespace ChartScript

/-- Lists whose items correspond have the same images under functions that agree on corresponding
items. -/
theorem map_eq_of_forall₂ {α β γ : Type} {R : α → β → Prop} {f : α → γ} {g : β → γ}
    (agree : ∀ x y, R x y → g y = f x) {xs : List α} {ys : List β} (all : List.Forall₂ R xs ys) :
    ys.map g = xs.map f := by
  induction all with
  | nil => rfl
  | cons first _ ih => rw [List.map_cons, List.map_cons, agree _ _ first, ih]

/-- Lists whose items correspond have the same images in a row under such functions. -/
theorem flatMap_eq_of_forall₂ {α β γ : Type} {R : α → β → Prop} {f : α → List γ} {g : β → List γ}
    (agree : ∀ x y, R x y → g y = f x) {xs : List α} {ys : List β} (all : List.Forall₂ R xs ys) :
    ys.flatMap g = xs.flatMap f := by
  rw [List.flatMap_def, List.flatMap_def, map_eq_of_forall₂ agree all]

namespace Grid

/-- The codes in the cells of a grid. -/
def codes (grid : Grid) : List (List (Option String)) :=
  grid.map fun cells => cells.map fun content => content.map Identifier.code

/-- A cell holds a code when it is the code in the cell. -/
theorem holds_iff_codes {grid : Grid} {cell : Cell} {code : String} :
    grid.Holds cell code ↔
      (grid.codes[cell.row]?.bind fun cells => cells[cell.column]?).join = some code := by
  have mapped : (grid.codes[cell.row]?.bind fun cells => cells[cell.column]?).join =
      (grid.at? cell).map Identifier.code := by
    rw [codes, at?, List.getElem?_map]
    cases grid[cell.row]? with
    | none => rfl
    | some cells =>
      rw [Option.map_some, Option.bind_some, Option.bind_some, List.getElem?_map]
      cases cells[cell.column]? <;> rfl
  rw [mapped, Option.map_eq_some_iff, Holds]

/-- Grids with the same codes have the same cell for each code. -/
theorem cellOf?_congr {grid grid' : Grid} (same : grid'.codes = grid.codes) (code : String) :
    grid'.cellOf? code = grid.cellOf? code := by
  apply Option.ext
  intro cell
  simp only [cellOf?_eq_some_iff, holds_iff_codes, same]

end Grid

/-- The codes of the series that a relation draws. -/
def Relation.codes (relation : Relation) : List String :=
  relation.references.map fun reference => reference.2.code

/-- A plot of two series draws these. -/
theorem Relation.codes_plot (x y : Identifier .data) :
    (Relation.plot x y).codes = [x.code, y.code] := rfl

/-- Axes are respelled: their code stays, and the plots that they invoke are renamed. -/
structure Axes.Respells (rename : String → String) (axes other : Axes) : Prop where
  /-- The code is the same. -/
  name : other.name.code = axes.name.code
  /-- The same plots are invoked, under their new codes. -/
  plots : other.plots.map Identifier.code = axes.plots.map fun plot => rename plot.code

/-- Axes invoke the codes of the plots that they list. -/
theorem Axes.invokes_iff {axes : Axes} {code : String} :
    axes.invokes code = true ↔ code ∈ axes.plots.map Identifier.code := by
  simp [invokes]

/-- A plot is respelled: it is renamed, and what it draws stays. -/
structure Plot.Respells (rename : String → String) (plot other : Plot) : Prop where
  /-- The code is the new one. -/
  name : other.name.code = rename plot.name.code
  /-- The same series are drawn. -/
  relation : other.relation.codes = plot.relation.codes
  /-- The style is the same. -/
  lineStyle : other.lineStyle = plot.lineStyle

/-- A series is respelled: its code and its numbers stay. -/
structure Series.Respells (series other : Series) : Prop where
  /-- The code is the same. -/
  name : other.name.code = series.name.code
  /-- The numbers are the same. -/
  values : other.values = series.values

namespace Chart

/-- A chart is respelled, with new codes for its plots. -/
structure Respells (rename : String → String) (chart other : Chart) : Prop where
  /-- The size of the figure is the same. -/
  size : other.figure.size = chart.figure.size
  /-- The indentation is the same. -/
  indent : other.figure.style.indent = chart.figure.style.indent
  /-- The shape is the same. -/
  shape : other.figure.style.shape = chart.figure.style.shape
  /-- The codes in the cells are the same. -/
  grid : other.figure.grid.codes = chart.figure.grid.codes
  /-- Axes are respelled one by one. -/
  axes : List.Forall₂ (Axes.Respells rename) chart.axes other.axes
  /-- Plots are respelled one by one. -/
  plots : List.Forall₂ (Plot.Respells rename) chart.plots other.plots
  /-- Series are respelled one by one. -/
  series : List.Forall₂ Series.Respells chart.series other.series

/-- The codes of the plots that axes invoke. -/
def invokedCodes (chart : Chart) : List String :=
  chart.axes.flatMap fun axes => axes.plots.map Identifier.code

/-- The codes of the series that plots draw. -/
def drawnCodes (chart : Chart) : List String :=
  chart.plots.flatMap fun plot => plot.relation.codes

/-- A renaming keeps the codes apart that plots have or that axes invoke. -/
def KeepsApart (chart : Chart) (rename : String → String) : Prop :=
  ∀ code ∈ chart.plotCodes ++ chart.invokedCodes, ∀ code' ∈ chart.plotCodes ++ chart.invokedCodes,
    rename code = rename code' → code = code'

/-- Coherence goes by codes. -/
theorem coherent_iff_codes {chart : Chart} :
    chart.Coherent ↔
      chart.axesCodes.Nodup ∧ chart.plotCodes.Nodup ∧ chart.seriesCodes.Nodup ∧
        (chart.figure.grid.codes.length = chart.figure.size.rows ∧
          ∀ cells ∈ chart.figure.grid.codes, cells.length = chart.figure.size.columns) ∧
        (∀ cell code, chart.figure.grid.Holds cell code → code ∈ chart.axesCodes) ∧
        (∀ code ∈ chart.invokedCodes, code ∈ chart.plotCodes) ∧
        (∀ code ∈ chart.drawnCodes, code ∈ chart.seriesCodes) ∧
        ∀ cell other code, chart.figure.grid.Holds cell code →
          chart.figure.grid.Holds other code → cell = other := by
  have sized : (chart.figure.grid.length = chart.figure.size.rows ∧
      ∀ cells ∈ chart.figure.grid, cells.length = chart.figure.size.columns) ↔
        chart.figure.grid.codes.length = chart.figure.size.rows ∧
          ∀ cells ∈ chart.figure.grid.codes, cells.length = chart.figure.size.columns := by
    simp [Grid.codes]
  have cells : (∀ cell name, chart.figure.grid.at? cell = some name →
      ∃ axes ∈ chart.axes, axes.name.code = name.code) ↔
        ∀ cell code, chart.figure.grid.Holds cell code → code ∈ chart.axesCodes := by
    simp [Grid.Holds, axesCodes]
  have invocations : (∀ axes ∈ chart.axes, ∀ invoked ∈ axes.plots,
      ∃ plot ∈ chart.plots, plot.name.code = invoked.code) ↔
        ∀ code ∈ chart.invokedCodes, code ∈ chart.plotCodes := by
    constructor
    · intro met code member
      obtain ⟨axes, listed, inside⟩ := List.mem_flatMap.1 member
      obtain ⟨invoked, found, rfl⟩ := List.mem_map.1 inside
      exact List.mem_map.2 (met axes listed invoked found)
    · intro met axes listed invoked found
      exact List.mem_map.1
        (met _ (List.mem_flatMap.2 ⟨axes, listed, List.mem_map_of_mem found⟩))
  have drawings : (∀ plot ∈ chart.plots, ∀ x y, plot.relation = .plot x y →
      (∃ series ∈ chart.series, series.name.code = x.code) ∧
        ∃ series ∈ chart.series, series.name.code = y.code) ↔
        ∀ code ∈ chart.drawnCodes, code ∈ chart.seriesCodes := by
    constructor
    · intro met code member
      obtain ⟨plot, found, drawn⟩ := List.mem_flatMap.1 member
      obtain ⟨x, y, relation⟩ := plot.relation.exists_plot
      obtain ⟨knownX, knownY⟩ := met plot found x y relation
      rw [relation, Relation.codes_plot] at drawn
      rcases List.mem_cons.1 drawn with rfl | drawn
      · exact List.mem_map.2 knownX
      · rw [List.mem_singleton.1 drawn]
        exact List.mem_map.2 knownY
    · intro met plot found x y relation
      have drawn (code : String) (listed : code ∈ [x.code, y.code]) :
          ∃ series ∈ chart.series, series.name.code = code := by
        apply List.mem_map.1 (met code (List.mem_flatMap.2 ⟨plot, found, ?_⟩))
        rw [relation]
        exact listed
      exact ⟨drawn _ List.mem_cons_self, drawn _ (List.mem_cons_of_mem _ List.mem_cons_self)⟩
  constructor
  · intro coherent
    exact ⟨List.pairwise_map.2 coherent.axesDiffer, List.pairwise_map.2 coherent.plotsDiffer,
      List.pairwise_map.2 coherent.seriesDiffer, sized.1 coherent.sized, cells.1 coherent.cellsMet,
      invocations.1 coherent.invocationsMet, drawings.1 coherent.drawingsMet, coherent.placedOnce⟩
  · rintro ⟨axes, plots, series, size, met, invoked, drawn, placed⟩
    exact ⟨List.pairwise_map.1 axes, List.pairwise_map.1 plots, List.pairwise_map.1 series,
      sized.2 size, cells.2 met, invocations.2 invoked, drawings.2 drawn, placed⟩

/-- The text of the line about axes of a code. -/
def axesText (chart : Chart) (code : String) : String :=
  match chart.cellOf? code with
  | some cell => bindingText code cell
  | none => looseBindingText code

/-- The line about axes goes by their code. -/
theorem render_axesLine {chart : Chart} (axes : Identifier .axes) :
    (chart.axesLine axes).render = chart.axesText axes.code := by
  rw [axesText]
  cases place : chart.cellOf? axes.code with
  | some cell => exact axesLine_of_cell place
  | none => exact axesLine_of_no_cell place

/-- The text of the line about drawing on axes of a code. -/
def drawText (chart : Chart) (code x y : String) (style : LineStyle) : String :=
  match chart.cellOf? code with
  | some _ => drawingText code x y style.label
  | none => looseDrawingText code x y style.label

/-- The line about drawing goes by codes. -/
theorem render_drawLine {chart : Chart} {plot : Plot} {x y : Identifier .data}
    (drawn : plot.relation = .plot x y) (axes : Identifier .axes) :
    (chart.drawLine plot axes).render =
      chart.drawText axes.code x.code y.code plot.lineStyle := by
  rw [drawText]
  cases place : chart.cellOf? axes.code with
  | some cell => exact drawLine_of_cell drawn place
  | none => exact drawLine_of_no_cell drawn place

namespace Respells

variable {rename : String → String} {chart other : Chart}

theorem axesCodes (respells : chart.Respells rename other) : other.axesCodes = chart.axesCodes :=
  map_eq_of_forall₂ (fun _ _ axes => axes.name) respells.axes

theorem plotCodes (respells : chart.Respells rename other) :
    other.plotCodes = chart.plotCodes.map rename := by
  rw [Chart.plotCodes, Chart.plotCodes, List.map_map]
  exact map_eq_of_forall₂ (fun _ _ plot => plot.name) respells.plots

theorem seriesCodes (respells : chart.Respells rename other) :
    other.seriesCodes = chart.seriesCodes :=
  map_eq_of_forall₂ (fun _ _ series => series.name) respells.series

theorem invokedCodes (respells : chart.Respells rename other) :
    other.invokedCodes = chart.invokedCodes.map rename := by
  rw [Chart.invokedCodes, Chart.invokedCodes, List.map_flatMap]
  apply flatMap_eq_of_forall₂ _ respells.axes
  intro axes axes' spelled
  rw [spelled.plots, List.map_map]
  rfl

theorem drawnCodes (respells : chart.Respells rename other) :
    other.drawnCodes = chart.drawnCodes :=
  flatMap_eq_of_forall₂ (fun _ _ plot => plot.relation) respells.plots

/-- The cells hold the same codes. -/
theorem holds_iff (respells : chart.Respells rename other) {cell : Cell} {code : String} :
    other.figure.grid.Holds cell code ↔ chart.figure.grid.Holds cell code := by
  rw [Grid.holds_iff_codes, Grid.holds_iff_codes, respells.grid]

/-- The same axes stand in the same cells. -/
theorem cellOf? (respells : chart.Respells rename other) (code : String) :
    other.cellOf? code = chart.cellOf? code :=
  Grid.cellOf?_congr respells.grid code

/-- A renaming that keeps codes apart keeps a list of plots free of repetition, or not. -/
theorem nodup_plotCodes_iff (respells : chart.Respells rename other)
    (apart : chart.KeepsApart rename) : other.plotCodes.Nodup ↔ chart.plotCodes.Nodup := by
  rw [respells.plotCodes]
  constructor
  · exact List.Nodup.of_map rename
  · apply List.Nodup.map_on
    intro code member code' member' same
    exact apart code (List.mem_append_left _ member) code' (List.mem_append_left _ member') same

/-- A renaming that keeps codes apart meets the same references. -/
theorem invocationsMet_iff (respells : chart.Respells rename other)
    (apart : chart.KeepsApart rename) :
    (∀ code ∈ other.invokedCodes, code ∈ other.plotCodes) ↔
      ∀ code ∈ chart.invokedCodes, code ∈ chart.plotCodes := by
  rw [respells.invokedCodes, respells.plotCodes]
  constructor
  · intro met code invoked
    obtain ⟨code', member, same⟩ := List.mem_map.1 (met _ (List.mem_map_of_mem invoked))
    rw [← apart code' (List.mem_append_left _ member) code (List.mem_append_right _ invoked) same]
    exact member
  · intro met code invoked
    obtain ⟨old, listed, rfl⟩ := List.mem_map.1 invoked
    exact List.mem_map_of_mem (met old listed)

/-- A chart and its respelling are both coherent or both not. -/
theorem coherent_iff (respells : chart.Respells rename other) (apart : chart.KeepsApart rename) :
    other.Coherent ↔ chart.Coherent := by
  rw [coherent_iff_codes, coherent_iff_codes, respells.nodup_plotCodes_iff apart,
    respells.invocationsMet_iff apart, respells.axesCodes, respells.seriesCodes,
    respells.drawnCodes, respells.grid, respells.size]
  simp only [respells.holds_iff]

/-- Axes invoke the new code of a plot exactly when they invoked the old one. -/
theorem invokes_iff (apart : chart.KeepsApart rename) {axes axes' : Axes}
    (member : axes ∈ chart.axes) (spelled : axes.Respells rename axes') {code : String}
    (listed : code ∈ chart.plotCodes) :
    axes.invokes code = true ↔ axes'.invokes (rename code) = true := by
  rw [Axes.invokes_iff, Axes.invokes_iff, spelled.plots]
  constructor
  · intro invoked
    obtain ⟨plot, found, rfl⟩ := List.mem_map.1 invoked
    exact List.mem_map_of_mem found
  · intro invoked
    obtain ⟨plot, found, same⟩ := List.mem_map.1 invoked
    have mentioned : plot.code ∈ chart.invokedCodes :=
      List.mem_flatMap.2 ⟨axes, member, List.mem_map_of_mem found⟩
    rw [← apart _ (List.mem_append_right _ mentioned) _ (List.mem_append_left _ listed) same]
    exact List.mem_map_of_mem found

/-- The same axes invoke the plot under its new code. -/
theorem callers (respells : chart.Respells rename other) (apart : chart.KeepsApart rename)
    {code : String} (listed : code ∈ chart.plotCodes) :
    (other.callers (rename code)).map Identifier.code =
      (chart.callers code).map Identifier.code := by
  have members : List.Forall₂ (fun axes axes' => axes ∈ chart.axes ∧ axes.Respells rename axes')
      chart.axes other.axes :=
    (List.forall₂_and_left chart.axes other.axes).2 ⟨fun _ member => member, respells.axes⟩
  have filtered := List.rel_filter (p := fun axes => axes.invokes code)
    (q := fun axes => axes.invokes (rename code))
    (fun axes axes' related => invokes_iff apart related.1 related.2 listed) members
  rw [Chart.callers, Chart.callers, List.map_map, List.map_map]
  exact map_eq_of_forall₂ (fun _ _ related => related.2.name) filtered

/-- The line of axes is the same. -/
theorem axesLine (respells : chart.Respells rename other) {axes axes' : Axes}
    (spelled : axes.Respells rename axes') :
    (other.axesLine axes'.name).render = (chart.axesLine axes.name).render := by
  rw [render_axesLine, render_axesLine, axesText, axesText, spelled.name, respells.cellOf?]

/-- The line of a series is the same. -/
theorem bindSeries {series series' : Series} (spelled : series.Respells series') :
    (Line.bindSeries series').render = (Line.bindSeries series).render := by
  rw [Line.render_bindSeries, Line.render_bindSeries, spelled.name, spelled.values]

/-- The lines of a plot are the same. -/
theorem drawLines (respells : chart.Respells rename other) (apart : chart.KeepsApart rename)
    {plot plot' : Plot} (listed : plot ∈ chart.plots) (spelled : plot.Respells rename plot') :
    (other.callers plot'.name.code).map (fun axes => (other.drawLine plot' axes).render) =
      (chart.callers plot.name.code).map fun axes => (chart.drawLine plot axes).render := by
  obtain ⟨x, y, drawn⟩ := plot.relation.exists_plot
  obtain ⟨x', y', drawn'⟩ := plot'.relation.exists_plot
  have codes := spelled.relation
  rw [drawn, drawn', Relation.codes_plot, Relation.codes_plot, List.cons.injEq,
    List.cons.injEq] at codes
  have callers := congrArg
    (List.map fun code => chart.drawText code x.code y.code plot.lineStyle)
    (respells.callers apart (List.mem_map_of_mem (f := fun plot : Plot => plot.name.code) listed))
  rw [List.map_map, List.map_map] at callers
  simp only [render_drawLine drawn, render_drawLine drawn', drawText, respells.cellOf?, codes,
    spelled.lineStyle, spelled.name]
  exact callers

/-- The parts of the scripts of a chart and of its respelling are the same. -/
theorem blockTexts (respells : chart.Respells rename other) (apart : chart.KeepsApart rename)
    (block : Block) : other.blockTexts block = chart.blockTexts block := by
  cases block with
  | figure =>
    rw [Chart.blockTexts, Chart.blockTexts, blockLines, blockLines, respells.size]
  | axes =>
    rw [axesTexts_eq, axesTexts_eq]
    exact map_eq_of_forall₂ (fun _ _ spelled => respells.axesLine spelled) respells.axes
  | data =>
    rw [dataTexts_eq, dataTexts_eq]
    exact map_eq_of_forall₂ (fun _ _ spelled => bindSeries spelled) respells.series
  | plot =>
    have members : List.Forall₂ (fun plot plot' => plot ∈ chart.plots ∧ plot.Respells rename plot')
        chart.plots other.plots :=
      (List.forall₂_and_left chart.plots other.plots).2 ⟨fun _ member => member, respells.plots⟩
    rw [Chart.blockTexts, Chart.blockTexts, blockLines, blockLines, List.map_flatMap,
      List.map_flatMap]
    apply flatMap_eq_of_forall₂ _ members
    rintro plot plot' ⟨listed, spelled⟩
    rw [List.map_map, List.map_map]
    exact respells.drawLines apart listed spelled

/-- The bodies of the scripts are the same. -/
theorem body (respells : chart.Respells rename other) (apart : chart.KeepsApart rename) :
    other.body.map Line.render = chart.body.map Line.render := by
  rw [map_render_body, map_render_body]
  apply List.flatMap_congr
  intro block _
  rw [partTexts, partTexts, respells.blockTexts apart]

end Respells

end Chart

/-- The scripts of a consistent chart and of its respelling are the same. -/
theorem ConsistentChart.script_eq_of_respells {rename : String → String}
    {checked other : ConsistentChart} (respells : checked.chart.Respells rename other.chart)
    (apart : checked.chart.KeepsApart rename) (options : ScriptOptions) :
    other.script options = checked.script options := by
  simp only [script, ScriptOptions.shapeFor, ScriptOptions.indentFor, respells.shape,
    respells.indent, respells.body apart]

end ChartScript
